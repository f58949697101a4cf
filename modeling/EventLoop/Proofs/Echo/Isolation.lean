import EventLoop.Proofs.Echo.Locality
import EventLoop.Proofs.Echo.Quiescence
import EventLoop.Proofs.Server.Edits
import EventLoop.Proofs.Server.Ownership

/-! # Connections are isolated

    Two connections share the table, the readiness set, the system and the counters, and
    nothing of what the call of the one does concerns the other.

    * `Effect`: what a call makes of its own connection. It is told by the connection, its
      stream and the events (`onConnection_local`), and it is all that the call does but for
      the log: edits under one descriptor in table, set and files, one stream, and something
      that is added to the counters (`Effect.Does`).
    * So what stands under other descriptors is left alone (`Effect.Does.isolates`), and
      effects on two connections come to the same in any order (`Effect.Does.comm`).
    * `Housed` is what this needs of a system. It holds in every run, within rounds too, and
      calls for whatever events keep it (`Callable.housed`). -/

namespace EventLoop.Echo

open Application

variable {size i j : Nat} {a b a₁ a₂ b₁ b₂ : Service} {fd other : Descriptor}
  {c c' : Connection Unit} {events : EventMask} {s s' : Stream}

/-! ## Systems -/

/-- Every connection has a stream of its own. -/
structure Housed (a : Service) : Prop where
  reachable : Reachable a
  tidy : a.host.kernel.Tidy
  streams : ∀ fd c, a.server.connections.get? fd = some c → ∃ s, a.host.kernel.stream? fd = some s

/-- The stream of a connection is there. -/
theorem Housed.exists_stream (h : Housed a) (hget : a.server.connections.get? fd = some c) :
    ∃ i s, a.host.Joins fd i s := by
  obtain ⟨s, hs⟩ := h.streams fd c hget
  obtain ⟨i, hindex, hstream⟩ := Kernel.stream?_eq_some_iff.mp hs
  exact ⟨i, s, hindex, hstream⟩

/-- Streams of different connections are different. -/
theorem Housed.index_ne (h : Housed a) (hjoins : a.host.Joins fd i s)
    (hother : a.host.Joins other j s') (hne : other ≠ fd) : j ≠ i :=
  h.tidy.index_ne hjoins.index (Kernel.mem_references_of_index hother.index) hne

/-- In every run, also within a round, connections have streams of their own. -/
theorem Watches.housed {noted : List Ready} {served : List Nat} (h : Watches size noted served a) :
    Housed a where
  reachable := h.reachable
  tidy := h.echoes.balanced.tidy
  streams := by
    intro fd c hget
    obtain ⟨_, _, s, hs, _⟩ := h.echoes.live fd c hget
    exact ⟨s, hs⟩

/-! ## Effects -/

/-- What a call does to its connection, which is kept or not, to its interest, if that is changed,
    and to its stream, and what it counts. -/
structure Effect where
  connection : Option (Connection Unit)
  interest : Option EventMask
  stream : Stream
  counts : Stats

namespace Effect

/-- Its entry in the table. -/
def onTable (e : Effect) (entry : Descriptor × Connection Unit) :
    Option (Descriptor × Connection Unit) :=
  e.connection.map fun c => (entry.1, c)

/-- Its entry in the set. -/
def onSet (e : Effect) (entry : PollEntry) : Option PollEntry :=
  e.connection.map fun _ => e.interest.elim entry fun interest => ⟨entry.fd, interest, .empty⟩

/-- Its file. -/
def onFiles (e : Effect) (entry : Descriptor × OpenFile) : Option (Descriptor × OpenFile) :=
  e.connection.map fun _ => entry

theorem onTable_keeps (e : Effect) : KeepsKey Prod.fst e.onTable := by
  intro entry entry' h
  obtain ⟨_, _, rfl⟩ := Option.map_eq_some_iff.mp h
  rfl

theorem onSet_keeps (e : Effect) : KeepsKey PollEntry.fd e.onSet := by
  intro entry entry' h
  obtain ⟨_, _, rfl⟩ := Option.map_eq_some_iff.mp h
  cases e.interest <;> rfl

theorem onFiles_keeps (e : Effect) : KeepsKey Prod.fst e.onFiles := by
  intro entry entry' h
  obtain ⟨_, _, rfl⟩ := Option.map_eq_some_iff.mp h
  rfl

/-- From the one system to the other the effect is all that has changed but for the log. -/
structure Does (e : Effect) (fd : Descriptor) (i : Nat) (a b : Service) : Prop where
  connections : b.server.connections = ⟨edit Prod.fst fd e.onTable a.server.connections.entries⟩
  polled : a.server.polled.Edited fd e.onSet b.server.polled
  server : b.server =
    { a.server with connections := b.server.connections, polled := b.server.polled }
  kernel : b.host.kernel = { a.host.kernel with
    files := edit Prod.fst fd e.onFiles a.host.kernel.files
    streams := a.host.kernel.streams.set i e.stream }
  memory : b.host.memory = a.host.memory
  data : b.data = a.data.plus e.counts

end Effect

/-- What a call leaves alone. -/
structure Isolates (fd : Descriptor) (a b : Service) : Prop where
  /-- Other connections, with their buffers, their status, their id and their handler. -/
  connections : ∀ other, other ≠ fd → b.server.connections.get? other
    = a.server.connections.get? other
  interests : ∀ other, other ≠ fd → b.server.polled.interest? other
    = a.server.polled.interest? other
  results : ∀ other, other ≠ fd → b.server.polled.reported? other = a.server.polled.reported? other
  files : ∀ other, other ≠ fd → b.host.kernel.file? other = a.host.kernel.file? other
  streams : ∀ other, other ≠ fd → b.host.kernel.stream? other = a.host.kernel.stream? other
  listener : b.server.listener = a.server.listener
    ∧ b.server.polled.entry? 0 = a.server.polled.entry? 0
  /-- All other entries stand in the order in which they stood. -/
  entries : b.server.polled.toList.filter (fun e => decide (e.fd ≠ fd))
    = a.server.polled.toList.filter fun e => decide (e.fd ≠ fd)
  table : b.server.connections.erase fd = a.server.connections.erase fd

/-- Two systems that differ in the log at most. -/
structure SameButLog (a b : Service) : Prop where
  server : a.server = b.server
  kernel : a.host.kernel = b.host.kernel
  memory : a.host.memory = b.host.memory
  data : a.data = b.data

namespace Effect.Does

variable {e e' : Effect}

theorem file?_of_ne (h : e.Does fd i a b) (hne : other ≠ fd) :
    b.host.kernel.file? other = a.host.kernel.file? other := by
  rw [Kernel.file?, h.kernel]
  exact lookup_edit_fst e.onFiles_keeps hne

theorem index?_of_ne (h : e.Does fd i a b) (hne : other ≠ fd) :
    b.host.kernel.index? other = a.host.kernel.index? other :=
  Kernel.index?_congr (congrArg _ (h.file?_of_ne hne))

theorem streams_of_ne (h : e.Does fd i a b) (hne : j ≠ i) :
    b.host.kernel.streams[j]? = a.host.kernel.streams[j]? := by
  rw [h.kernel]
  exact List.getElem?_set_ne (Ne.symm hne)

theorem get?_of_ne (h : e.Does fd i a b) (hne : other ≠ fd) :
    b.server.connections.get? other = a.server.connections.get? other := by
  rw [h.connections]
  exact lookup_edit_fst e.onTable_keeps hne

theorem joins (h : e.Does fd i a b) (hne : other ≠ fd) (hindex : j ≠ i)
    (hother : a.host.Joins other j s) :
    b.host.Joins other j s :=
  ⟨(h.index?_of_ne hne).trans hother.index, (h.streams_of_ne hindex).trans hother.stream⟩

/-- What stands under other descriptors is left alone. -/
theorem isolates (h : e.Does fd i a b) (hhoused : Housed a)
    (hget : a.server.connections.get? fd = some c)
    (hjoins : a.host.Joins fd i s) : Isolates fd a b where
  connections := fun _ hne => h.get?_of_ne hne
  interests := by
    intro other hne
    rw [PollSet.interest?, PollSet.questions, h.polled.toList, lookup_edit _ e.onSet_keeps hne]
    rfl
  results := by
    intro other hne
    rw [PollSet.reported?, h.polled.toList, lookup_edit _ e.onSet_keeps hne]
    rfl
  files := fun _ hne => h.file?_of_ne hne
  streams := by
    intro other hne
    rw [Kernel.stream?, Kernel.stream?, h.index?_of_ne hne]
    cases hother : a.host.kernel.index? other with
    | none => rfl
    | some j =>
        exact h.streams_of_ne
          (hhoused.tidy.index_ne hjoins.index (Kernel.mem_references_of_index hother) hne)
  -- the listener stands first in the set, and its key is nobody's connection
  listener := by
    have hpaired := hhoused.reachable.paired
    refine ⟨by rw [h.server], ?_⟩
    have hseat := Server.mem_roster_of_get? hget
    cases hl : a.server.listener with
    | none =>
        rw [hpaired.ended hl] at hseat
        cases hseat
    | some l =>
        obtain ⟨_, hfirst⟩ := hpaired.first l hl
        have hne : l.fd ≠ fd := Ne.symm (hpaired.key_ne_listener hl hseat)
        rw [PollSet.entry?, PollSet.entry?, ← List.head?_eq_getElem?, ← List.head?_eq_getElem?,
          h.polled.toList, hfirst, head?_edit hfirst hne]
  entries := by
    rw [h.polled.toList]
    exact filter_edit e.onSet_keeps
  table := by
    rw [DescriptorTable.erase, DescriptorTable.erase, h.connections]
    exact congrArg DescriptorTable.mk (filter_edit e.onTable_keeps)

/-- Effects on two connections come to the same in any order. -/
theorem comm (hp : a.server.polled.WellFormed) (hne : other ≠ fd) (hindex : j ≠ i)
    (h₁ : e.Does fd i a a₁)
    (h₂ : e'.Does other j a₁ a₂) (h₁' : e'.Does other j a b₁) (h₂' : e.Does fd i b₁ b₂) :
    SameButLog a₂ b₂ where
  server := by
    have hconnections : a₂.server.connections = b₂.server.connections := by
      rw [h₂.connections, h₁.connections, h₂'.connections, h₁'.connections,
        edit_comm e'.onTable_keeps e.onTable_keeps hne]
    have hpolled : a₂.server.polled = b₂.server.polled :=
      h₁.polled.comm hp e.onSet_keeps e'.onSet_keeps (Ne.symm hne) h₂.polled h₁'.polled h₂'.polled
    rw [h₂.server, h₁.server, h₂'.server, h₁'.server, hconnections, hpolled]
  kernel := by
    rw [h₂.kernel, h₁.kernel, h₂'.kernel, h₁'.kernel,
      edit_comm e'.onFiles_keeps e.onFiles_keeps hne, List.set_comm _ _ (Ne.symm hindex)]
  memory := by rw [h₂.memory, h₁.memory, h₂'.memory, h₁'.memory]
  data := by
    rw [h₂.data, h₁.data, h₂'.data, h₁'.data, Stats.plus_assoc, Stats.plus_comm e.counts,
      ← Stats.plus_assoc]

end Effect.Does

/-! ## Calls -/

/-- The interest that a connection gets after its turn, if that changes. -/
def retuned (c : Connection Unit) : Option EventMask :=
  if wanted c = c.status &&& watchMask then none else some (interestFor (wanted c))

/-- An adjustment edits one entry of the set. -/
theorem Adjusts.edited {p p' : PollSet} (h : Adjusts p fd c p') (hp : p.WellFormed)
    (hdistinct : p.descriptors.Nodup)
    (hwatched : fd ∈ p.descriptors) (stream : Stream) (counts : Stats) :
    p.Edited fd (Effect.onSet ⟨some (tuned c), retuned c, stream, counts⟩) p' := by
  cases h with
  | same hsame =>
      have hkept : Effect.onSet ⟨some (tuned c), retuned c, stream, counts⟩ = some := by
        funext entry
        rw [Effect.onSet, retuned, if_pos hsame]
        rfl
      rw [hkept]
      exact PollSet.edited_refl hp fd
  | anew hchanged hadd =>
      have hrenewed : Effect.onSet ⟨some (tuned c), retuned c, stream, counts⟩
          = fun entry => some ⟨entry.fd, interestFor (wanted c), .empty⟩ := by
        funext entry
        rw [Effect.onSet, retuned, if_neg hchanged]
        rfl
      rw [hrenewed]
      exact PollSet.edited_add hp hdistinct hwatched hadd

/-- The effect of a call that keeps the connection. -/
def Effect.kept (m : Turn.Move) : Effect :=
  ⟨some (tuned m.connection), retuned m.connection, m.stream, m.counts⟩

/-- The effect of one that closes it. -/
def Effect.closed (m : Turn.Move) : Effect :=
  ⟨none, none, m.stream.close, m.counts.plus { Stats.zero with closes := 1 }⟩

section

variable {m : Turn.Move} {t : Turn} (hhoused : Housed a)
  (hget : a.server.connections.get? fd = some c) (hleads : m.Leads i ⟨c, a.data, a.host⟩ t)

include hhoused hget hleads

/-- The call of a connection that is kept does that move, and tunes the connection. -/
theorem kept_does (hturn : (⟨c, a.data, a.host⟩ : Turn).serve events = (true, t)) :
    ∃ b, Echo.onConnection fd events a = .ok () b ∧ (Effect.kept m).Does fd i a b
      ∧ b.host.kernel.Tidy := by
  have hpaired := hhoused.reachable.paired
  have hwatched := hpaired.mem_descriptors (Server.mem_roster_of_get? hget)
  obtain ⟨polled, hcall, hadjusts⟩ := onConnection_kept hget hturn hpaired.wellFormed hwatched
  rw [hleads.connection] at hcall hadjusts
  refine ⟨_, hcall, ⟨DescriptorTable.modify_eq_edit _ _ _, ?_, rfl, ?_, hleads.touches.memory,
    hleads.stats⟩, ?_⟩
  · exact hadjusts.edited hpaired.wellFormed hpaired.distinct hwatched _ _
  · show t.host.kernel = ({ a.host.kernel with
        files := edit Prod.fst fd some a.host.kernel.files
        streams := a.host.kernel.streams.set i m.stream } : Kernel)
    rw [edit_some]
    exact hleads.touches.on
  · show t.host.kernel.Tidy
    rw [hleads.touches.on]
    exact hhoused.tidy.setStream i m.stream

/-- The call of one that is not kept does the move and takes the connection out. -/
theorem closed_does (hjoins : a.host.Joins fd i s) (hsocket : m.connection.socket = c.socket)
    (hturn : (⟨c, a.data, a.host⟩ : Turn).serve events = (false, t)) :
    ∃ b, Echo.onConnection fd events a = .ok () b ∧ (Effect.closed m).Does fd i a b
      ∧ b.host.kernel.Tidy := by
  have hpaired := hhoused.reachable.paired
  obtain ⟨hfd, _⟩ := hpaired.fd_of_get? hget
  have hwatched := hpaired.mem_descriptors (Server.mem_roster_of_get? hget)
  obtain ⟨host, hcall, hclose, hmemory⟩ := onConnection_closed hget hturn
  have hsame : t.connection.fd = fd := by
    rw [hleads.connection]
    exact (congrArg Socket.fd hsocket).trans hfd
  have htidy := hhoused.tidy.setStream i m.stream
  have hafter := hjoins.after hleads.touches.on
  rw [hsame] at hclose
  refine ⟨_, hcall, ⟨DescriptorTable.erase_eq_edit _ _, ?_, rfl, ?_,
    hmemory.trans hleads.touches.memory, ?_⟩, ?_⟩
  · exact PollSet.edited_remove hpaired.wellFormed hpaired.distinct hwatched
  · show host.kernel = _
    rw [hclose, Kernel.close_eq_edit (hleads.touches.on ▸ htidy.distinct) hafter.index
      hafter.stream, hleads.touches.on]
    -- the stream that the turn left is the one that is closed
    show ({ a.host.kernel with
        files := _
        streams := (a.host.kernel.streams.set i m.stream).set i m.stream.close } : Kernel) = _
    rw [List.set_set]
    rfl
  · show { t.stats with closes := t.stats.closes + 1 } = _
    rw [hleads.stats]
    rfl
  · show host.kernel.Tidy
    rw [hclose, hleads.touches.on]
    exact htidy.close fd

end

/-- The effect of a call, and whether there is one, depends on the connection, its stream and the
    events only. -/
theorem onConnection_local (fd : Descriptor) (events : EventMask) (c : Connection Unit)
    (s : Stream) :
    ∃ e : Effect, ∀ (a : Service) (i : Nat), Housed a → a.server.connections.get? fd = some c →
      a.host.Joins fd i s →
      ∃ b, Echo.onConnection fd events a = .ok () b ∧ e.Does fd i a b ∧ b.host.kernel.Tidy := by
  obtain ⟨kept, m, hsocket, hserve⟩ := Turn.serve_local events c s
  have hturns : ∀ (a : Service) (i : Nat), Housed a → a.server.connections.get? fd = some c →
      a.host.Joins fd i s →
      ∃ t, (⟨c, a.data, a.host⟩ : Turn).serve events = (kept, t)
        ∧ m.Leads i ⟨c, a.data, a.host⟩ t := by
    intro a i hhoused hget hjoins
    obtain ⟨hfd, _⟩ := hhoused.reachable.paired.fd_of_get? hget
    exact hserve i a.data a.host (hfd ▸ hjoins)
  cases kept with
  | true =>
      refine ⟨.kept m, fun a i hhoused hget hjoins => ?_⟩
      obtain ⟨t, hturn, hleads⟩ := hturns a i hhoused hget hjoins
      exact kept_does hhoused hget hleads hturn
  | false =>
      refine ⟨.closed m, fun a i hhoused hget hjoins => ?_⟩
      obtain ⟨t, hturn, hleads⟩ := hturns a i hhoused hget hjoins
      exact closed_does hhoused hget hleads hjoins hsocket hturn

/-- A connection that is kept keeps its file. -/
theorem Effect.Does.stream?_self {e : Effect} (h : e.Does fd i a b) (hjoins : a.host.Joins fd i s)
    (hlive : b.server.connections.get? fd = some c) : b.host.kernel.stream? fd = some e.stream := by
  cases hkept : e.connection with
  | none =>
      have hgone : e.onTable = fun _ => none := by
        funext entry
        rw [onTable, hkept]
        rfl
      rw [h.connections, hgone, ← DescriptorTable.erase_eq_edit,
        DescriptorTable.get?_erase_self] at hlive
      cases hlive
  | some c' =>
      have hfile : e.onFiles = some := by
        funext entry
        rw [onFiles, hkept]
        rfl
      have hkernel : b.host.kernel = a.host.kernel.setStream i e.stream := by
        rw [h.kernel, hfile, edit_some]
        rfl
      rw [hkernel]
      exact Kernel.stream?_setStream_self hjoins.index hjoins.stream

/-- Calls keep what they need, whatever the events are. -/
theorem Housed.called (h : Housed a) (hget : a.server.connections.get? fd = some c)
    (hcall : Echo.onConnection fd events a = .ok () b) : Housed b := by
  obtain ⟨i, s, hjoins⟩ := h.exists_stream hget
  obtain ⟨e, hlocal⟩ := onConnection_local fd events c s
  obtain ⟨_, hok, hdoes, htidy⟩ := hlocal a i h hget hjoins
  cases hcall.symm.trans hok
  have hoperated := onConnection_operates fd events a
  rw [after_eq_of_ok hcall] at hoperated
  refine ⟨h.reachable.of_operated hoperated, htidy, fun other c' hlive => ?_⟩
  by_cases hne : other = fd
  · subst hne
    exact ⟨e.stream, hdoes.stream?_self hjoins hlive⟩
  · rw [(hdoes.isolates h hget hjoins).streams other hne]
    exact h.streams other c' ((hdoes.get?_of_ne hne).symm.trans hlive)

/-! ## Isolation -/

/-- The systems in which connections are called: those of a run, between rounds or before a turn
    of one, and what calls make of them, for whatever events. -/
inductive Callable (size : Nat) : Service → Prop
  | between {a : Service} (h : Running size a) : Callable size a
  | turn {a : Service} {turns : List (EventLoop.Turn Unit Unit Stats)}
      {t : EventLoop.Turn Unit Unit Stats}
      (h : Running size a) (hturns : RoundTurns a turns) (ht : t ∈ turns) : Callable size t.before
  | called {a b : Service} {fd : Descriptor} {c : Connection Unit} {events : EventMask}
      (h : Callable size a)
      (hget : a.server.connections.get? fd = some c)
      (hcall : Echo.onConnection fd events a = .ok () b) :
      Callable size b

/-- Wherever connections are called they have streams of their own. -/
theorem Callable.housed (h : Callable size a) : Housed a := by
  -- on how the system came up
  induction h with
  | between h => exact h.watches.housed
  | turn h hturns ht =>
      obtain ⟨_, _, _, _, _, hwait, _, hnoted, hround⟩ := hturns
      obtain ⟨hbefore, _⟩ := h.watches.round_lighter hwait hnoted hround
      exact (hbefore _ ht).2.1.housed
  | called _ hget hcall ih => exact ih.called hget hcall

/-- In every system whose connections have streams of their own, and so in every one in which
    connections are called (`Callable.housed`): the call of a connection leaves all others alone,
    and calls of two connections come to the same in any order, whatever their sends and receives
    come to and whether they close their connections or not. -/
theorem connections_isolated (h : Housed a) (hget : a.server.connections.get? fd = some c)
    (hother : a.server.connections.get? other = some c') (hne : other ≠ fd)
    (events events' : EventMask) :
    ∃ a₁ a₂ b₁ b₂, Echo.onConnection fd events a = .ok () a₁
      ∧ Echo.onConnection other events' a₁ = .ok () a₂
      ∧ Echo.onConnection other events' a = .ok () b₁ ∧ Echo.onConnection fd events b₁ = .ok () b₂
      ∧ Isolates fd a a₁ ∧ SameButLog a₂ b₂ := by
  obtain ⟨i, s, hjoins⟩ := h.exists_stream hget
  obtain ⟨j, s', hjoins'⟩ := h.exists_stream hother
  have hindex := h.index_ne hjoins hjoins' hne
  obtain ⟨e, hlocal⟩ := onConnection_local fd events c s
  obtain ⟨e', hlocal'⟩ := onConnection_local other events' c' s'
  obtain ⟨a₁, hcall₁, hdoes₁, _⟩ := hlocal a i h hget hjoins
  obtain ⟨b₁, hcall₁', hdoes₁', _⟩ := hlocal' a j h hother hjoins'
  -- neither call changes what the effect of the other is told by
  obtain ⟨a₂, hcall₂, hdoes₂, _⟩ := hlocal' a₁ j (h.called hget hcall₁)
    ((hdoes₁.get?_of_ne hne).trans hother) (hdoes₁.joins hne hindex hjoins')
  obtain ⟨b₂, hcall₂', hdoes₂', _⟩ := hlocal b₁ i (h.called hother hcall₁')
    ((hdoes₁'.get?_of_ne (Ne.symm hne)).trans hget)
      (hdoes₁'.joins (Ne.symm hne) (Ne.symm hindex) hjoins)
  exact ⟨a₁, a₂, b₁, b₂, hcall₁, hcall₂, hcall₁', hcall₂', hdoes₁.isolates h hget hjoins,
    hdoes₁.comm h.reachable.paired.wellFormed hne hindex hdoes₂ hdoes₁' hdoes₂'⟩

/-- An echo server for three clients, with buffers of four bytes, to which two came; a round
    accepted both. -/
def Loopback.joined? : Option Service :=
  match Server.bind "127.0.0.1:0" () ⟨3, 4, 0, 8⟩ (Host.fresh .loopback (.withLevel .off)) with
  | (.ok s, h) => some (rounded (⟨s, h, .zero⟩ : Service).visit.visit)
  | (.error _, _) => none

theorem Loopback.joined_running (h : Loopback.joined? = some a) : Running 4 a := by
  rw [Loopback.joined?] at h
  rcases hbind : Server.bind "127.0.0.1:0" () ⟨3, 4, 0, 8⟩ (Host.fresh .loopback (.withLevel .off))
    with ⟨e | s, h'⟩
  · rw [hbind] at h
    cases h
  · rw [hbind] at h
    obtain rfl := Option.some.inj h
    have hbound : Running 4 ⟨s, h', .zero⟩ := .start rfl rfl rfl hbind
    exact ((hbound.next (.connect _ _)).next (.connect _ _)).next (.round _)

/-- The one sent five bytes and made room for three, and the other broke off. -/
def Loopback.parted? : Option Service :=
  Loopback.joined?.map fun a =>
    acted 1 (·.peerReset) <| acted 0 (·.setWindow (some 3)) <| acted 0
      (·.peerSend [1, 2, 3, 4, 5]) a

theorem Loopback.parted_running (h : Loopback.parted? = some a) : Running 4 a := by
  obtain ⟨joined, hjoined, rfl⟩ := Option.map_eq_some_iff.mp h
  have hsending : Loopback.joined?.map (fun a => (a.host.kernel.streams[0]?).map Stream.peerEnd)
      = some (some .sending) := by decide +kernel
  rw [hjoined, Option.map_some, Option.some.injEq] at hsending
  have hsent := (Loopback.joined_running hjoined).sent hsending [1, 2, 3, 4, 5]
  have hnarrow := hsent.next (.windowed _ 0 (some 3))
  exact hnarrow.next (.client _ (f := (·.peerReset)) fun s _ => .reset s)

/-- The call for the one connection sends three of the four bytes that it takes and changes
    what is asked about it, and the call for the other closes that, in both orders. -/
theorem connections_isolated_parted : ∃ (app : Service) (c c' : Connection Unit)
    (a₁ a₂ b₁ b₂ : Service),
    Loopback.parted? = some app ∧ Callable 4 app ∧ Housed app
      ∧ app.server.connections.get? 4 = some c ∧ app.server.connections.get? 5 = some c'
      ∧ (5 : Descriptor) ≠ 4
      ∧ Echo.onConnection 4 .readable app = .ok () a₁ ∧ Echo.onConnection 5 .readable a₁ = .ok () a₂
      ∧ Echo.onConnection 5 .readable app = .ok () b₁ ∧ Echo.onConnection 4 .readable b₁ = .ok () b₂
      ∧ Isolates 4 app a₁ ∧ SameButLog a₂ b₂
      ∧ (a₂.host.kernel.stream? 4).map Stream.handed = some [1, 2, 3]
      ∧ (a₂.server.connections.get? 4).map (·.output.toList) = some [4]
      ∧ a₂.server.polled.questions = [(3, .listener), (4, interestFor (watchRead ||| watchWrite))]
      ∧ a₂.data.closes = 1 := by
  have hlive : Loopback.parted?.map (fun a =>
      ((a.server.connections.get? 4).isSome, (a.server.connections.get? 5).isSome))
        = some (true, true) := by decide +kernel
  have hcalls : Loopback.parted?.map (fun a =>
      let b := after (Echo.onConnection 5 .readable) (after (Echo.onConnection 4 .readable) a)
      (b.server.polled.questions, b.data.closes))
        = some ([(3, .listener), (4, interestFor (watchRead ||| watchWrite))], 1) := by
    decide +kernel
  have hsent : Loopback.parted?.map (fun a =>
      let b := after (Echo.onConnection 5 .readable) (after (Echo.onConnection 4 .readable) a)
      ((b.host.kernel.stream? 4).map Stream.handed,
        (b.server.connections.get? 4).map (·.output.toList)))
        = some (some [1, 2, 3], some [4]) := by decide +kernel
  obtain ⟨app, happ, hparts⟩ := Option.map_eq_some_iff.mp hlive
  rw [happ, Option.map_some, Option.some.injEq] at hcalls hsent
  simp only [Prod.mk.injEq, Option.isSome_iff_exists] at hparts
  obtain ⟨⟨c, hget⟩, c', hother⟩ := hparts
  have hcallable : Callable 4 app := .between (Loopback.parted_running happ)
  obtain ⟨a₁, a₂, b₁, b₂, hcall₁, hcall₂, hcall₁', hcall₂', hisolates, hsame⟩ :=
    connections_isolated hcallable.housed hget hother (by decide) .readable .readable
  rw [after_eq_of_ok hcall₁, after_eq_of_ok hcall₂, Prod.mk.injEq] at hcalls hsent
  exact ⟨app, c, c', a₁, a₂, b₁, b₂, happ, hcallable, hcallable.housed, hget, hother, by decide,
    hcall₁, hcall₂, hcall₁', hcall₂', hisolates, hsame, hsent.1, hsent.2, hcalls.1, hcalls.2⟩

end EventLoop.Echo
