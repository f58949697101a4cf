import EventLoop.Proofs.Echo.Progress
import EventLoop.Proofs.Server.Limits
import Mathlib.Algebra.GroupWithZero.Nat

/-! # How much there is still to do

    The `effort` of an echo server bounds how often its rounds can still find something,
    as long as its clients leave it alone. It counts what its connections have left to do
    (`burden`), and for each client that waits everything that its connection could come
    to have left, and the accepting.

    * Taking a client from the queue takes something off the effort, whether the client is
      let in (`Watches.letIn`) or turned away (`Watches.turnedAway`).
    * So does a call for which a wait had a reason (`Watches.call_lighter`): a connection
      that was served gets on or is given up, and one that was only accepted will not be
      called for nothing again.
    * Nothing else that a round does changes it (`effort_quiet`). -/

namespace EventLoop.Echo

open Application

variable {size i n : Nat} {noted : List Ready} {served : List Nat} {a b : Service}
  {server : Server Unit Unit} {h' : Host} {fd : Descriptor} {l : Listener} {first : Nat}
  {c : Connection Unit} {r : Ready} {s s' : Stream} {k k' : Kernel}
  {table : DescriptorTable (Connection Unit)}

/-! ## The measure -/

/-- What a connection has left to do, and the calls it may get besides: one after which it
    is closed, and one more if it watches for a chance to send though it has nothing to
    send. -/
def burden (s : Stream) (c : Connection Unit) : Nat :=
  remaining s c
    + if has (c.status &&& watchMask) watchWrite && !(c.hasPendingOutput || !c.input.isEmpty)
      then 2 else 1

/-- What the connections of a table have left to do. -/
def held (k : Kernel) (table : DescriptorTable (Connection Unit)) : Nat :=
  (table.entries.map fun entry => (k.stream? entry.1).elim 0 fun s => burden s entry.2).sum

/-- What there will be to do for the clients in a queue. -/
def queued (k : Kernel) (listener : Descriptor) : Nat :=
  ((k.references listener).map fun i => (k.streams[i]?).elim 0 fun s =>
    2 * s.arrived.length + 4).sum

def effort (a : Service) : Nat :=
  held a.host.kernel a.server.connections + a.server.listener.elim 0 fun l =>
    queued a.host.kernel l.fd

/-- A bound server has its connections and its queue to see to. -/
theorem effort_eq (hl : a.server.listener = some l) :
    effort a = held a.host.kernel a.server.connections + queued a.host.kernel l.fd := by
  rw [effort, hl]
  rfl

/-! ## Connections -/

/-- A tuned connection may get one call more, after which it is closed. -/
theorem burden_tuned (h : Tuned c) : burden s c = remaining s c + 1 := by
  rw [burden, h.writes]
  cases (c.hasPendingOutput || !c.input.isEmpty) <;> rfl

/-- One that was just accepted may get two. -/
theorem burden_untouched (h : Untouched c) : burden s c = remaining s c + 2 := by
  rw [burden, h.status, Connection.hasPendingOutput, h.input, h.output]
  rfl

/-- A new connection has a little less to do than was counted for its client. -/
theorem burden_idle (hidle : s.Idle) (h : Untouched c) : burden s c = 2 * s.arrived.length + 3 := by
  have hunmarked : has watchMask closing = false := rfl
  rw [burden_untouched h, remaining, h.status, hunmarked, hidle.taken, hidle.handed]
  simp only [Bool.false_eq_true, if_false, List.length_nil]
  omega

theorem advanced_tuned {c' : Connection Unit} (h : Advanced s c s' c') :
    Advanced s c s' (tuned c') := by
  rw [Advanced, has_closing_tuned]
  exact h

/-- A turn with a reason makes a connection that is kept lighter, and one that was served
    gets on in it. -/
theorem Turn.serve_lighter {t t' : Turn} {events : EventMask}
    (hjoins : t.host.Joins t.connection.fd i s)
    (hcarries : Carries size s t.connection) (hstate : Tuned t.connection ∨ Untouched t.connection)
    (hevents : events = EventMask.reported (interestFor (t.connection.status &&& watchMask))
      s.condition)
    (hsome : events.isEmpty = false) (hserve : t.serve events = (true, t'))
    (hwent : Went size i s t n s' t') :
    burden s' (tuned t'.connection) < burden s t.connection
      ∧ (Tuned t.connection → Advanced s t.connection s' (tuned t'.connection)) := by
  have hkeeps : Keeps t t' := by
    have hserved := serve_keeps t events
    rwa [hserve] at hserved
  have hadvances : Tuned t.connection → Advanced s t.connection s' t'.connection := by
    intro htuned
    have hurges : Urges events s t.connection := hevents ▸ htuned.urges (hevents ▸ hsome)
    exact serve_advances hjoins hcarries hurges hserve hwent
  refine ⟨?_, fun htuned => advanced_tuned (hadvances htuned)⟩
  rw [burden_tuned (tuned_tuned hwent.carries (serve_kept hserve)), remaining_tuned]
  obtain htuned | huntouched := hstate
  · rw [burden_tuned htuned]
    exact Nat.succ_lt_succ ((hwent.remaining_lt_iff hcarries hkeeps).mpr (hadvances htuned))
  · rw [burden_untouched huntouched]
    exact Nat.succ_lt_succ (Nat.lt_succ_of_le (hwent.remaining_le hcarries hkeeps))

/-! ## Tables -/

theorem held_congr (hsame : ∀ fd ∈ table.keys, k'.stream? fd = k.stream? fd) :
    held k' table = held k table := by
  refine congrArg List.sum (List.map_congr_left ?_)
  intro entry hentry
  rw [hsame entry.1 (List.mem_map_of_mem hentry)]

/-- A connection and all others are all there is. -/
theorem held_eq (hkeys : table.keys.Nodup) (hget : table.get? fd = some c)
    (hs : k.stream? fd = some s) :
    held k table = burden s c + held k (table.erase fd) := by
  rw [held, ((DescriptorTable.perm_erase hkeys hget).map _).sum_nat, List.map_cons, List.sum_cons,
    hs]
  rfl

/-- The burden of one connection and that of the others make up the whole. -/
theorem held_modify {f : Connection Unit → Connection Unit} (hkeys : table.keys.Nodup)
    (hget : table.get? fd = some c) (hs : k.stream? fd = some s) :
    held k (table.modify fd f) = burden s (f c) + held k (table.erase fd) := by
  have hmodified : (table.modify fd f).get? fd = some (f c) := by
    rw [DescriptorTable.get?_modify_self, hget]
    rfl
  rw [held_eq ((DescriptorTable.keys_modify table fd f).symm ▸ hkeys) hmodified hs,
    DescriptorTable.erase_modify]

/-- A connection that is put behind all others and changed. -/
theorem held_append {new : Connection Unit} {table' : DescriptorTable (Connection Unit)}
    {f : Connection Unit → Connection Unit}
    (hentries : table'.entries = table.entries ++ [(fd, new)])
    (hgone : table.get? fd = none) (hs : k.stream? fd = some s) :
    held k (table'.modify fd f) = held k table + burden s (f new) := by
  rw [held, DescriptorTable.entries_modify_append f hentries hgone, List.map_append,
    List.sum_append, List.map_singleton, List.sum_singleton, hs]
  rfl

/-- Who is not in the table does not matter. -/
theorem held_localTo (h : Kernel.LocalTo fd k k') (hgone : table.get? fd = none) :
    held k' table = held k table := by
  refine held_congr fun other hother => h.stream? other ?_
  rintro rfl
  exact DescriptorTable.get?_eq_none_iff.mp hgone hother

theorem held_accept {listener : Descriptor} (h : k.Accepts listener fd first k')
    (hgone : table.get? fd = none) :
    held k' table = held k table := by
  refine held_congr fun other hother => h.stream?_of_ne ?_
  rintro rfl
  exact DescriptorTable.get?_eq_none_iff.mp hgone hother

/-! ## Queues -/

theorem queued_localTo {listener : Descriptor} (h : Kernel.LocalTo fd k k') (hne : listener ≠ fd) :
    queued k' listener = queued k listener := by
  rw [queued, h.references listener hne]
  refine congrArg List.sum (List.map_congr_left ?_)
  intro i hi
  rw [h.streams listener hne i hi]

/-- The client that leaves the queue takes its share along. -/
theorem queued_accept {listener : Descriptor} (h : k.Accepts listener fd first k')
    (hs : k.streams[first]? = some s) :
    queued k listener = 2 * s.arrived.length + 4 + queued k' listener := by
  rw [queued, h.references_listener, List.map_cons, List.sum_cons, hs, queued, h.streams]
  rfl

/-! ## Quiet changes -/

/-- Where files and streams are alike there is as much to do. -/
theorem effort_quiet (hconnections : b.server.connections = a.server.connections)
    (hlistener : b.server.listener = a.server.listener)
    (halike : a.host.kernel.Alike b.host.kernel) :
    effort b = effort a := by
  have hheld : held b.host.kernel a.server.connections = held a.host.kernel a.server.connections :=
    held_congr fun fd _ => halike.stream?_eq fd
  have hqueued : ∀ fd, queued b.host.kernel fd = queued a.host.kernel fd := by
    intro fd
    rw [queued, halike.references_eq, halike.streams, queued]
  rw [effort, hconnections, hlistener, hheld, effort]
  simp only [hqueued]

/-! ## Taking clients -/

/-- There is less to do and fewer clients wait. -/
structure Lighter (a b : Service) : Prop where
  effort : effort b < effort a
  pending : b.server.pending b.host < a.server.pending a.host
  listener : b.server.listener = a.server.listener

/-- Of an open listener as many are pending as its file refers to. -/
theorem pending_eq (hl : server.listener = some l) (hlistens : h'.kernel.Listens l.fd) :
    server.pending h' = (h'.kernel.references l.fd).length := by
  rw [Server.pending, hl, ← hlistens.queue_eq]
  rfl

theorem pending_alike {h : Host} (hlistens : ∀ l, server.listener = some l → h.kernel.Listens l.fd)
    (halike : h.kernel.Alike h'.kernel) : server.pending h' = server.pending h := by
  cases hl : server.listener with
  | none => rw [Server.pending, Server.pending, hl]; rfl
  | some l =>
      have hbefore := hlistens l hl
      rw [pending_eq hl (hbefore.alike halike), pending_eq hl hbefore, halike.references_eq]

namespace Watches

section

variable (h : Watches size noted served a) (hl : a.server.listener = some l)
  (haccepts : a.host.kernel.Accepts l.fd fd first k)

include h hl haccepts

/-- What was counted for a client that is taken is gone from the queue. -/
theorem taken (hs : a.host.kernel.streams[first]? = some s) :
    effort a = held (k.setNonblocking fd).2 a.server.connections
        + (2 * s.arrived.length + 4 + queued (k.setNonblocking fd).2 l.fd)
      ∧ a.server.pending a.host = ((k.setNonblocking fd).2.references l.fd).length + 1 := by
  have halike := k.alike_setNonblocking fd
  have hlocal := halike.localTo fd
  have hheld := held_accept haccepts (h.echoes.get?_of_fresh haccepts.fresh)
  have hgone := h.echoes.get?_of_fresh haccepts.fresh
  refine ⟨?_, ?_⟩
  · rw [effort_eq hl, queued_accept haccepts hs, queued_localTo hlocal haccepts.listener_ne,
      held_localTo hlocal hgone, hheld]
  · rw [pending_eq hl (h.listens l hl), haccepts.references_listener, List.length_cons,
      halike.references_eq]

theorem pending_turnedAway (hkernel : h'.kernel = (k.setNonblocking fd).2.close fd) :
    a.server.pending a.host = a.server.pending h' + 1 := by
  obtain ⟨s, hs, _⟩ := h.echoes.balanced.idle_of_accept haccepts
  have htidy := (k.alike_setNonblocking fd).tidy (haccepts.tidy h.echoes.balanced.tidy)
  have hne := haccepts.listener_ne
  have hlistens : h'.kernel.Listens l.fd := by
    rw [hkernel]
    exact (((h.listens l hl).accept haccepts).alike (k.alike_setNonblocking fd)).close hne
  rw [(h.taken hl haccepts hs).2, pending_eq hl hlistens, hkernel,
    (htidy.localTo_close fd).references l.fd hne]

theorem turnedAway (hkernel : h'.kernel = (k.setNonblocking fd).2.close fd) :
    Lighter a { a with host := h' } := by
  obtain ⟨s, hs, _⟩ := h.echoes.balanced.idle_of_accept haccepts
  obtain ⟨hbefore, _⟩ := h.taken hl haccepts hs
  have htidy := (k.alike_setNonblocking fd).tidy (haccepts.tidy h.echoes.balanced.tidy)
  have hlocal := htidy.localTo_close fd
  have hne := haccepts.listener_ne
  refine ⟨?_, ?_, rfl⟩
  · have hafter := effort_eq (a := { a with host := h' }) hl
    rw [hafter, hbefore]
    show held h'.kernel a.server.connections + queued h'.kernel l.fd < _
    rw [hkernel, held_localTo hlocal (h.echoes.get?_of_fresh haccepts.fresh),
      queued_localTo hlocal hne]
    omega
  · rw [h.pending_turnedAway hl haccepts hkernel]
    exact Nat.lt_succ_self _

theorem pending_letIn (hadmits : a.server.Admits fd () server)
    (hkernel : h'.kernel = (k.setNonblocking fd).2) :
    a.server.pending a.host = server.pending h' + 1 := by
  obtain ⟨s, hs, _⟩ := h.echoes.balanced.idle_of_accept haccepts
  have hlistens : h'.kernel.Listens l.fd := by
    rw [hkernel]
    exact ((h.listens l hl).accept haccepts).alike (k.alike_setNonblocking fd)
  rw [(h.taken hl haccepts hs).2, pending_eq (hadmits.listener.trans hl) hlistens, hkernel]

theorem letIn (hadmits : a.server.Admits fd () server)
    (hkernel : h'.kernel = (k.setNonblocking fd).2) :
    Lighter a { a with
      server := server.onConnection fd fun c => { c with status := watchMask }, host := h' } := by
  obtain ⟨s, hs, hidle⟩ := h.echoes.balanced.idle_of_accept haccepts
  obtain ⟨hbefore, _⟩ := h.taken hl haccepts hs
  have hlistener : server.listener = some l := hadmits.listener.trans hl
  refine ⟨?_, ?_, hadmits.listener⟩
  · -- the table has the newcomer behind all others
    have hstream : (k.setNonblocking fd).2.stream? fd = some s := by
      rw [(k.alike_setNonblocking fd).stream?_eq]
      refine Kernel.stream?_eq_some_iff.mpr ⟨first, haccepts.index?_fd, ?_⟩
      rw [haccepts.streams]
      exact hs
    obtain ⟨peer, hentries⟩ := hadmits.entries
    have hheld := held_append (f := fun c => { c with status := watchMask }) hentries
      (h.echoes.get?_of_fresh haccepts.fresh) hstream
    rw [burden_idle hidle (untouched_newcomer hadmits.size fd peer)] at hheld
    have hafter := effort_eq (a := { a with
      server := server.onConnection fd fun c => { c with status := watchMask }, host := h' })
        hlistener
    rw [hafter, hbefore]
    show held h'.kernel (server.connections.modify fd _) + queued h'.kernel l.fd < _
    rw [hkernel, hheld]
    omega
  · rw [h.pending_letIn hl haccepts hadmits hkernel]
    exact Nat.lt_succ_self _

end

end Watches

/-! ## Calls -/

/-- What was noted of a connection is what a wait would report of it now, and is
    something. -/
def Due (r : Ready) (a : Service) : Prop :=
  ∃ c s, a.server.connections.get? r.fd = some c ∧ c.id = r.id ∧ a.host.kernel.stream? r.fd = some s
    ∧ r.events = EventMask.reported (interestFor (c.status &&& watchMask)) s.condition
    ∧ r.events.isEmpty = false

/-- What happens to others leaves what is due. -/
theorem Due.of_same (h : Due r a)
    (hget : ∀ c, a.server.connections.get? r.fd = some c → b.server.connections.get? r.fd = some c)
    (hstream : ∀ s, a.host.kernel.stream? r.fd = some s → b.host.kernel.stream? r.fd = some s) :
    Due r b := by
  obtain ⟨c, s, hfound, hid, hs, hevents, hsome⟩ := h
  exact ⟨c, s, hget c hfound, hid, hstream s hs, hevents, hsome⟩

namespace Calls

theorem listener (h : Calls size a r c b) : b.server.listener = a.server.listener := by
  cases h <;> rfl

/-- A call for one connection changes the system at its descriptor only. -/
theorem localTo (h : Calls size a r c b) (htidy : a.host.kernel.Tidy) :
    Kernel.LocalTo r.fd a.host.kernel b.host.kernel := by
  cases h with
  | @kept i _ _ s' _ _ _ hkernel hjoins _ _ hwent _ =>
      show Kernel.LocalTo r.fd _ _
      rw [hwent.on, hkernel]
      exact htidy.localTo_setStream hjoins.index s'
  | @closed i _ _ s' _ _ _ _ hkernel hjoins _ _ hwent hclose =>
      show Kernel.LocalTo r.fd _ _
      rw [hclose, hwent.on, hkernel]
      exact (htidy.localTo_setStream hjoins.index s').trans
        ((htidy.setStream i s').localTo_close r.fd)

theorem get?_of_ne (h : Calls size a r c b) (hne : fd ≠ r.fd) :
    b.server.connections.get? fd = a.server.connections.get? fd := by
  cases h with
  | kept _ _ _ _ _ _ => exact DescriptorTable.get?_modify_of_ne _ _ hne
  | closed _ _ _ _ _ _ => exact DescriptorTable.get?_erase_of_ne _ hne

end Calls

namespace Watches

variable (h : Watches size noted served a) (hdue : Due r a)
  (hget : a.server.connections.get? r.fd = some c) (hcalls : Calls size a r c b)

include h hdue hget hcalls

/-- A call that is due closes the connection or makes it lighter. -/
theorem call_cases : b.server.connections = a.server.connections.erase r.fd
    ∨ ∃ c' s s', b.server.connections = a.server.connections.modify r.fd (fun _ => c')
      ∧ c'.id = c.id
      ∧ a.host.kernel.stream? r.fd = some s ∧ b.host.kernel.stream? r.fd = some s'
      ∧ burden s' c' < burden s c ∧ (Tuned c → Advanced s c s' c') := by
  cases hcalls with
  | closed _ _ _ _ _ _ => exact .inl rfl
  | @kept i _ s s' host t _ hkernel hjoins hcarries hserve hwent _ =>
      have hs : a.host.kernel.stream? r.fd = some s :=
        Kernel.stream?_eq_some_iff.mpr ⟨i, hjoins.index, hjoins.stream⟩
      obtain ⟨c', _, hfound, _, hstream, hevents, hsome⟩ := hdue
      obtain rfl := Option.some.inj (hget.symm.trans hfound)
      obtain rfl := Option.some.inj (hs.symm.trans hstream)
      obtain ⟨hfd, _⟩ := h.echoes.live r.fd c hget
      have hjoined : host.Joins c.fd i s := by
        refine ⟨?_, ?_⟩
        · rw [hkernel, hfd]
          exact hjoins.index
        · rw [hkernel]
          exact hjoins.stream
      -- what was due is what the stream reports, so the turn got something done
      obtain ⟨hlighter, hadvances⟩ :=
        Turn.serve_lighter (t := ⟨c, a.data, host⟩) hjoined hcarries (h.state r.fd c hget) hevents
          hsome hserve hwent
      refine .inr ⟨tuned t.connection, s, s', rfl, hwent.id, hs, ?_, hlighter, hadvances⟩
      show t.host.kernel.stream? r.fd = some s'
      rw [hwent.on, hkernel]
      exact Kernel.stream?_setStream_self hjoins.index hjoins.stream

/-- So it takes something off the effort. -/
theorem call_lighter : effort b < effort a := by
  have hlocal := hcalls.localTo h.echoes.balanced.tidy
  have hkeys := h.reachable.paired.keys_nodup
  -- the call is local, so the burden of the others is what it was
  have hothers : held b.host.kernel (a.server.connections.erase r.fd)
      = held a.host.kernel (a.server.connections.erase r.fd) :=
    held_localTo hlocal (DescriptorTable.get?_erase_self _ _)
  have hheld : held b.host.kernel b.server.connections < held a.host.kernel
      a.server.connections := by
    obtain herased | ⟨c', s, s', hmodified, _, hs, hs', hlt, _⟩ := h.call_cases hdue hget hcalls
    · obtain ⟨_, _, s, hs, _⟩ := h.echoes.live r.fd c hget
      rw [herased, hothers, held_eq hkeys hget hs]
      have hpos : 0 < burden s c := by
        rw [burden]
        split <;> omega
      omega
    · rw [hmodified, held_modify hkeys hget hs', hothers, held_eq hkeys hget hs]
      exact Nat.add_lt_add_right hlt _
  rw [effort, effort, hcalls.listener]
  cases hl : a.server.listener with
  | none => exact hheld
  | some l =>
      have hne := h.reachable.paired.key_ne_listener hl (Server.mem_roster_of_get? hget)
      show _ + queued b.host.kernel l.fd < _ + queued a.host.kernel l.fd
      rw [queued_localTo hlocal hne.symm]
      exact Nat.add_lt_add_right hheld _

end Watches

end EventLoop.Echo
