import EventLoop.Proofs.Echo.Books
import EventLoop.Proofs.Echo.Quiescence
import EventLoop.Proofs.Server.Ownership

/-! # Dead connections are closed

    A hangup is reported on every wait, so a connection whose peer ended the stream
    abruptly must not survive its turn: it would be reported for ever.

    * `Turn.serve_of_fault`: no such connection is kept, whatever its buffers, its status
      and its interest are. A pending failure is an error at once. A failure that was
      told leaves nothing to be kept for (`Turn.serve_of_spent`): a receive fails, or marks
      the connection, or brings bytes, and what is held cannot be sent.
    * `Dead.call`: its call takes it out of table and set and closes its descriptor.
    * `Running.reaps`: a round calls it, since what a wait noted stays due until its
      turn, and nobody opens the descriptor again before the round ends.

    `dead_closed` says this of one call in any state, and of every round of a run. -/

namespace EventLoop.Echo

open Application

variable {size i n : Nat} {noted : List Ready} {served : List Nat} {a b : Service}
  {w : Server Unit Unit} {h' : Host} {fd : Descriptor} {c : Connection Unit} {s : Stream}
  {r : Ready} {interest : EventMask} {turns : List (EventLoop.Turn Unit Unit Stats)}

/-! ## Turns -/

/-- After an abrupt end no connection is kept, for whatever interest it was reported. -/
theorem Turn.serve_of_fault {t : Turn} (hjoins : t.host.Joins t.connection.fd i s)
    (htcp : s.family = .tcp)
    (hinput : t.connection.input.WellFormed) (houtput : t.connection.output.WellFormed)
    (hfault : s.fault ≠ .intact) :
    (t.serve (EventMask.reported interest s.condition)).1 = false := by
  obtain ⟨hclosed, _, hspent⟩ := reported_of_fault interest hfault
  cases hfailed : (EventMask.reported interest s.condition).intersects
      (EventMask.error ||| EventMask.invalid) with
  | true =>
      rw [serve, if_pos hfailed]
      rfl
  | false => exact serve_of_spent hjoins hinput (hspent hfailed) hclosed htcp houtput hfailed

/-! ## Calls -/

/-- A live connection whose peer ended the stream abruptly. The failure is pending or was
    told. -/
structure Dead (a : Service) (fd : Descriptor) (c : Connection Unit) (s : Stream) : Prop where
  live : a.server.connections.get? fd = some c
  stream : a.host.kernel.stream? fd = some s
  faulty : s.fault ≠ .intact

/-- Nothing stands under the descriptor: not in the table, not in the set, and no file. -/
structure Gone (fd : Descriptor) (a : Service) : Prop where
  table : a.server.connections.get? fd = none
  set : fd ∉ a.server.polled.descriptors
  file : fd ∉ a.host.openDescriptors

/-- The connection under the descriptor is closed, and no other. -/
structure Closes (fd : Descriptor) (a b : Service) : Prop where
  connections : b.server.connections = a.server.connections.erase fd
  polled : b.server.polled = (a.server.polled.remove fd).2
  opened : b.host.openDescriptors = a.host.openDescriptors.erase fd
  closes : b.data.closes = a.data.closes + 1

/-- After its last call a connection is in no table, in no set, and its descriptor is free. -/
theorem Closes.gone (h : Closes fd a b) (hpaired : Paired a) (htidy : a.host.kernel.Tidy) :
    Gone fd b where
  table := by
    rw [h.connections]
    exact DescriptorTable.get?_erase_self _ _
  set := by
    rw [h.polled, PollSet.descriptors_remove hpaired.wellFormed]
    exact hpaired.distinct.not_mem_erase
  file := by
    rw [h.opened]
    exact htidy.distinct.not_mem_erase

/-- The call of a dead connection, for whatever interest it was reported. -/
theorem Dead.call (h : Dead a fd c s) (hpaired : Paired a) (htcp : s.family = .tcp)
    (hinput : c.input.WellFormed) (houtput : c.output.WellFormed) (interest : EventMask) :
    ∃ b, handlers.call c ⟨fd, c.id, EventMask.reported interest s.condition⟩ a = .ok () b
      ∧ Closes fd a b := by
  obtain ⟨i, hindex, hstream⟩ := Kernel.stream?_eq_some_iff.mp h.stream
  obtain ⟨hfd, _⟩ := hpaired.fd_of_get? h.live
  show ∃ b, Echo.onConnection fd _ (a.traced _) = .ok () b ∧ _
  generalize s!"dispatch fd {fd} {(EventMask.reported interest s.condition).inspect}" = message
  have hjoins : (a.traced message).host.Joins c.fd i s := by
    rw [hfd]
    exact ⟨hindex, hstream⟩
  have hgiven :
      (Turn.serve (EventMask.reported interest s.condition) ⟨c, a.data, (a.traced message).host⟩).1
        = false :=
    Turn.serve_of_fault hjoins htcp hinput houtput h.faulty
  have hkeeps := Turn.serve_keeps ⟨c, a.data, (a.traced message).host⟩
    (EventMask.reported interest s.condition)
  obtain ⟨_, _, _, hbooks⟩ := Turn.serve_books (t := ⟨c, a.data, (a.traced message).host⟩)
    hinput houtput
  rcases hserve : (⟨c, a.data, (a.traced message).host⟩ : Turn).serve
    (EventMask.reported interest s.condition) with ⟨kept, t⟩
  rw [hserve] at hgiven hkeeps hbooks
  obtain rfl : kept = false := hgiven
  obtain ⟨host, hcall, hclose, _⟩ := onConnection_closed (a := a.traced message) h.live hserve
  refine ⟨_, hcall, rfl, rfl, ?_, ?_⟩
  · have hsame : t.connection.fd = fd := (congrArg Socket.fd hkeeps.socket).trans hfd
    show host.kernel.openDescriptors = _
    rw [hclose, hsame, Kernel.openDescriptors_close]
    exact congrArg (fun opened : List Descriptor => opened.erase fd) hkeeps.opened
  · show t.stats.closes + 1 = a.data.closes + 1
    rw [hbooks.closes]

/-- A call opens nothing. -/
theorem Calls.opened (h : Calls size a r c b) :
    b.host.openDescriptors ⊆ a.host.openDescriptors := by
  cases h with
  | kept hkernel _ _ _ hwent _ =>
      show Kernel.openDescriptors _ ⊆ _
      rw [hwent.on, hkernel]
      exact List.Subset.refl _
  | closed hkernel _ _ _ hwent hclose =>
      show Kernel.openDescriptors _ ⊆ _
      rw [hclose, Kernel.openDescriptors_close, hwent.on, hkernel]
      exact List.erase_subset

/-! ## Rounds -/

/-- How the next round treats a dead connection. -/
structure Reaped (a : Service) (fd : Descriptor) (c : Connection Unit) (s : Stream) : Prop where
  /-- A wait answers as long as there are not more entries than descriptors allowed. -/
  answers : a.host.kernel.descriptorLimit.any (· < a.server.polled.toList.length) = false →
    ∃ n w h', a.server.wait a.host = (.ok n, w, h')
  /-- It reports a hangup, and the failure with it until it was told. -/
  reported : ∀ n w h', a.server.wait a.host = (.ok n, w, h') → fd ∈ w.readyEntries.map PollEntry.fd
    ∧ ∃ result, w.polled.reported? fd = some result ∧ result.contains .hangup = true
      ∧ (s.fault = .spent ∨ result.contains .error = true)
  /-- The connection has its turn, which closes it, and nothing stands in its place when the
      round ends. -/
  round : ∀ n w h', a.server.wait a.host = (.ok n, w, h') → ∃ turns b, RoundTurns a turns
    ∧ (∃ t ∈ turns, ∃ c' b', t.ready.fd = fd ∧ t.ready.id = c.id
        ∧ t.before.server.connections.get? fd = some c' ∧ c'.id = c.id
        ∧ handlers.call c' t.ready t.before = .ok () b' ∧ Closes fd t.before b')
    ∧ Server.poll handlers a = .ok (.ok n) b ∧ Gone fd b

/-- What was closed in a round stays closed until the round ends. -/
theorem Watches.gone_call (h : Watches size noted served a) (hr : r ∈ noted)
    (hget : a.server.connections.get? r.fd = some c) (hid : c.id = r.id) (hgone : Gone fd a) :
    ∃ b, handlers.call c r a = .ok () b ∧ Watches size noted served b ∧ Gone fd b := by
  obtain ⟨b, hok, hcalls, hb⟩ := h.call hr hget hid
  have hb := hb.of_subset (List.Subset.refl noted) (List.subset_cons_self _ _)
  have hne : fd ≠ r.fd := by
    rintro rfl
    cases hgone.table.symm.trans hget
  have hfile : fd ∉ b.host.openDescriptors := fun hopen => hgone.file (hcalls.opened hopen)
  exact ⟨b, hok, hb, (hcalls.get?_of_ne hne).trans hgone.table,
    fun hwatched => hfile (hb.reachable.paired.isOpen hwatched), hfile⟩

/-- What is noted of a dead connection is closed by its turn. -/
theorem Watches.closes_due (h : Watches size noted served a) (hdue : Due r a)
    (hclosed : r.events.isClosed = true) :
    ∃ c b, a.server.connections.get? r.fd = some c ∧ c.id = r.id ∧ handlers.call c r a = .ok () b
      ∧ Closes r.fd a b := by
  obtain ⟨c, s, hget, hid, hs, hevents, _⟩ := hdue
  obtain ⟨_, _, _, hsame, hcarries⟩ := h.echoes.live r.fd c hget
  obtain rfl := Option.some.inj (hs.symm.trans hsame)
  have hdead : Dead a r.fd c s := by
    refine ⟨hget, hs, fun hintact => ?_⟩
    -- without a fault a wait reports no hangup
    rw [hevents, (reported_of_intact (c.status &&& watchMask) hintact).2.1] at hclosed
    cases hclosed
  obtain ⟨b, hcall, hcloses⟩ :=
    hdead.call h.reachable.paired hcarries.sound.tcp hcarries.input hcarries.output
    (interestFor (c.status &&& watchMask))
  refine ⟨c, b, hget, hid, ?_, hcloses⟩
  rwa [← hevents, hid] at hcall

/-- Of a dead connection a wait reports the hangup. -/
theorem Watches.reports_dead (h : Watches size [] served a) (hdead : Dead a fd c s)
    (hwait : a.server.wait a.host = (.ok n, w, h')) :
    fd ∈ w.readyEntries.map PollEntry.fd
      ∧ ∃ result, w.polled.reported? fd = some result ∧ result.contains .hangup = true
        ∧ (s.fault = .spent ∨ result.contains .error = true) := by
  obtain ⟨_, hs, hreported⟩ := h.reported hwait hdead.live
  obtain rfl := Option.some.inj (hdead.stream.symm.trans hs)
  have hpaired := (h.reachable.of_moment (.of_wait hwait)).paired
  obtain ⟨_, _, rfl⟩ := Server.wait_ok hwait
  obtain ⟨hhangup, herror⟩ := reported_hangup (interestFor (c.status &&& watchMask)) hdead.faulty
  have hsome := EventMask.nonempty_of_contains (by decide) hhangup
  exact ⟨(mem_readyEntries hpaired hdead.live hreported).mpr hsome, _, hreported, hhangup, herror⟩

/-- And that is what is noted of it. -/
theorem Watches.notes_dead (h : Watches size [] served a) (hdead : Dead a fd c s)
    (hwait : a.server.wait a.host = (.ok n, w, h'))
    (hnoted : List.Forall₂ w.Notes w.readyEntries noted)
    (hr : r ∈ noted) (hfd : r.fd = fd) : r.id = c.id ∧ r.events.isClosed = true := by
  obtain ⟨_, result, hreported, hhangup, _⟩ := h.reports_dead hdead hwait
  have hpaired := (h.reachable.of_moment (.of_wait hwait)).paired
  obtain ⟨_, _, rfl⟩ := Server.wait_ok hwait
  obtain ⟨e, he, c', hget, rfl⟩ := Server.notes_mem hnoted r hr
  obtain rfl : e.fd = fd := hfd
  obtain rfl := Option.some.inj (hdead.live.symm.trans hget)
  have hsame :=
    PollSet.reported?_of_mem hpaired.distinct (List.mem_of_mem_drop (List.mem_filter.mp he).1)
  obtain rfl := Option.some.inj (hreported.symm.trans hsame)
  exact ⟨rfl, EventMask.intersects_of_contains hhangup rfl⟩

/-- A wait that finds a connection ready does not answer that nothing is. -/
theorem pos_of_ready (hwait : a.server.wait a.host = (.ok n, w, h'))
    (hready : fd ∈ w.readyEntries.map PollEntry.fd) :
    0 < n := by
  obtain ⟨e, he, _⟩ := List.mem_map.mp hready
  obtain ⟨hbehind, hsome⟩ := List.mem_filter.mp he
  rw [Server.wait_ready hwait]
  exact List.length_pos_of_mem (List.mem_filter.mpr ⟨List.mem_of_mem_drop hbehind, hsome⟩)

/-- Only a bound server has connections. -/
theorem isBound_of_live (hpaired : Paired a) (hget : a.server.connections.get? fd = some c) :
    a.server.isBound = true := by
  rw [Server.isBound]
  cases hl : a.server.listener with
  | some _ => rfl
  | none =>
      have hseat := Server.mem_roster_of_get? hget
      rw [hpaired.ended hl] at hseat
      cases hseat

/-- A round calls whoever was found dead, and closes the connection. -/
theorem Running.reaps (h : Running size a) (hdead : Dead a fd c s)
    (hwait : a.server.wait a.host = (.ok n, w, h')) :
    ∃ turns b, RoundTurns a turns
      ∧ (∃ t ∈ turns, ∃ c' b', t.ready.fd = fd ∧ t.ready.id = c.id
          ∧ t.before.server.connections.get? fd = some c' ∧ c'.id = c.id
          ∧ handlers.call c' t.ready t.before = .ok () b' ∧ Closes fd t.before b')
      ∧ Server.poll handlers a = .ok (.ok n) b ∧ Gone fd b := by
  obtain ⟨hready, _⟩ := h.watches.reports_dead hdead hwait
  have hbound := isBound_of_live h.reachable.paired hdead.live
  obtain ⟨turns, hturns, hfds⟩ := h.exists_turns hbound hwait (pos_of_ready hwait hready)
  obtain ⟨t, ht, hfd⟩ := List.mem_map.mp (hfds ▸ hready)
  have ⟨_, _, _, noted, _, hwait', _, hnoted, hround⟩ := hturns
  cases hwait.symm.trans hwait'
  obtain ⟨hdue, b, hpoll, _⟩ := h.watches.round_lighter hwait hnoted hround
  obtain ⟨hmem, hbefore, hstill⟩ := hdue t ht
  obtain ⟨hid, hclosed⟩ := h.watches.notes_dead hdead hwait hnoted hmem hfd
  obtain ⟨c', b', hget, hsame, hcall, hcloses⟩ := hbefore.closes_due hstill hclosed
  obtain ⟨_, hok, _, hafter⟩ := hbefore.call hmem hget hsame
  cases hcall.symm.trans hok
  have hgone := hcloses.gone hbefore.reachable.paired hbefore.echoes.balanced.tidy
  subst hfd
  refine ⟨turns, b, hturns, ⟨t, ht, c', b', rfl, hid, hget, hsame.trans hid, hcall, hcloses⟩, hpoll,
    ?_⟩
  -- after the turn the descriptor stays closed for the rest of the round
  rw [hpoll] at hround
  cases hround with
  | finished _ hsweep =>
      obtain ⟨_, rest, _, hrest, hsweep'⟩ := hsweep.rest ht hget hsame hcall
      obtain ⟨_, x, hx, _, hend⟩ :=
        hsweep'.keeps (P := fun x => Watches size noted _ x ∧ Gone t.ready.fd x) hrest
        (fun r hr x c hx hget hid => hx.1.gone_call hr hget hid hx.2) ⟨hafter, hgone⟩
      cases hx
      exact ⟨hend.table, hend.set, hend.file⟩

/-! ## Dead connections -/

/-- A connection whose peer ended the stream abruptly is closed by its next call, in any state and
    for any interest. In a run the next wait reports it, and the round closes it. -/
theorem dead_closed :
    (∀ (a : Service) (fd : Descriptor) (c : Connection Unit) (s : Stream) (interest : EventMask),
      Paired a → a.host.kernel.Tidy → Dead a fd c s → s.family = .tcp →
      c.input.WellFormed → c.output.WellFormed →
        (EventMask.reported interest s.condition).contains .hangup = true
          ∧ (s.fault = .spent ∨ (EventMask.reported interest s.condition).contains .error = true)
          ∧ ∃ b, handlers.call c ⟨fd, c.id, EventMask.reported interest s.condition⟩ a = .ok () b
              ∧ Closes fd a b ∧ Gone fd b)
    ∧ ∀ (size : Nat) (a : Service) (fd : Descriptor) (c : Connection Unit) (s : Stream),
      Running size a → Dead a fd c s → Reaped a fd c s := by
  refine ⟨?_, ?_⟩
  · intro a fd c s interest hpaired htidy hdead htcp hinput houtput
    obtain ⟨hhangup, herror⟩ := reported_hangup interest hdead.faulty
    obtain ⟨b, hcall, hcloses⟩ := hdead.call hpaired htcp hinput houtput interest
    exact ⟨hhangup, herror, b, hcall, hcloses, hcloses.gone hpaired htidy⟩
  · intro size a fd c s hrun hdead
    exact ⟨Server.wait_of_room, fun _ _ _ hwait => hrun.watches.reports_dead hdead hwait,
      fun _ _ _ hwait => hrun.reaps hdead hwait⟩

/-- The buffers are full, two bytes are unread, and the client broke off without having read
    anything. -/
def Loopback.severed? : Option Service :=
  Loopback.waiting?.map fun a => acted 0 (·.peerReset) (rounded (rounded a))

theorem Loopback.severed_running (h : Loopback.severed? = some a) : Running 4 a := by
  obtain ⟨start, hstart, rfl⟩ := Option.map_eq_some_iff.mp h
  have hfilled := ((Loopback.waiting_running hstart).next (.round _)).next (.round _)
  exact hfilled.next (.client _ (f := (·.peerReset)) fun s _ => .reset s)

/-- Its set asks for nothing that could be had, and still its connection is closed: by a call, and
    by the next round. -/
theorem dead_closed_stalled : ∃ (app : Service) (c : Connection Unit) (s : Stream),
    Loopback.severed? = some app ∧ Running 4 app ∧ Dead app 4 c s
      ∧ c.input.isFull = true ∧ c.output.isFull = true ∧ s.stalled = true ∧ s.unread = [9, 10]
      ∧ (∃ b, handlers.call c ⟨4, c.id, EventMask.reported .empty s.condition⟩ app = .ok () b
          ∧ Closes 4 app b ∧ Gone 4 b)
      ∧ ∃ n b, Server.poll handlers app = .ok (.ok n) b ∧ Gone 4 b := by
  have hbuffers : Loopback.severed?.map (fun a => (a.server.connections.get? 4).map fun c =>
      (c.input.isFull, c.output.isFull)) = some (some (true, true)) := by decide +kernel
  have hstream : Loopback.severed?.map (fun a => (a.host.kernel.stream? 4).map fun s =>
      (s.stalled, s.unread, s.fault))
        = some (some (true, [9, 10], .pending .connectionReset)) := by decide +kernel
  have hlimits : Loopback.severed?.map (fun a => a.host.kernel.descriptorLimit) = some none := by
    decide +kernel
  obtain ⟨app, happ, hparts⟩ := Option.map_eq_some_iff.mp hbuffers
  rw [happ, Option.map_some, Option.some.injEq] at hstream hlimits
  simp only [Option.map_eq_some_iff, Prod.mk.injEq] at hparts hstream
  obtain ⟨c, hget, hinput, houtput⟩ := hparts
  obtain ⟨s, hs, hstalled, hunread, hfault⟩ := hstream
  have hrun := Loopback.severed_running happ
  have hdead : Dead app 4 c s := ⟨hget, hs, fun hintact => by cases hfault.symm.trans hintact⟩
  have hwatches := hrun.watches
  obtain ⟨_, _, _, hsame, hcarries⟩ := hwatches.echoes.live 4 c hget
  obtain rfl := Option.some.inj (hs.symm.trans hsame)
  obtain ⟨_, _, b, hcall, hcloses, hgone⟩ := dead_closed.1 app 4 c s .empty hrun.reachable.paired
    hwatches.echoes.balanced.tidy hdead hcarries.sound.tcp hcarries.input hcarries.output
  have hreaped := dead_closed.2 4 app 4 c s hrun hdead
  obtain ⟨n, w, h', hwait⟩ := hreaped.answers (by rw [hlimits]; rfl)
  obtain ⟨_, b', _, _, hpoll, hgone'⟩ := hreaped.round n w h' hwait
  exact ⟨app, c, s, happ, hrun, hdead, hinput, houtput, hstalled, hunread,
    ⟨b, hcall, hcloses, hgone⟩, n, b', hpoll, hgone'⟩

end EventLoop.Echo
