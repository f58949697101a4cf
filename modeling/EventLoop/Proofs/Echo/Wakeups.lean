import EventLoop.Proofs.Echo.Conservation
import EventLoop.Proofs.Echo.OrderlyEnd
import EventLoop.Proofs.Echo.Watching

/-! # No lost wake-up and no idle spin

    The next wait reports a connection exactly if there is something to do for it
    (`running_wakes`): it can take something from its stream (`Receivable`), or holds
    something that its client would accept (`Sendable`). Only a connection whose stream
    has ended abruptly is reported in any case, and one that was accepted and not served
    yet may be reported without need.

    What a wait reports of a connection depends on the directions that are watched and on
    the condition of its stream: `reported_readable` and `reported_writable` say what is
    reported, `reported_of_intact` and `reported_of_fault` why. -/

namespace EventLoop.Echo

open Application

variable {size n : Nat} {a : Service} {s : Server Unit Unit} {stream : Stream} {h' : Host}
  {fd : Descriptor} {c : Connection Unit} {watch : Status}

/-! ## One connection -/

/-- There is something to take from the stream, if only its end, and room for it. -/
def Receivable (stream : Stream) (c : Connection Unit) : Prop :=
  (stream.unread ≠ [] ∨ stream.peerEnd ≠ .sending) ∧ has c.status closing = false
  ∧ c.input.isFull = false

/-- Something is held that the peer would accept. -/
def Sendable (stream : Stream) (c : Connection Unit) : Prop :=
  (c.input.isEmpty = false ∨ c.output.isEmpty = false) ∧ stream.stalled = false

/-- Who watches for reading is told of unread bytes, and of an end. -/
theorem reported_readable (hwatch : has watch watchRead = true)
    (hready : stream.unread ≠ [] ∨ stream.peerEnd ≠ .sending) :
    (EventMask.reported (interestFor watch) stream.condition).contains .readable = true := by
  rw [EventMask.reported, interestFor, hwatch, Stream.condition]
  cases stream.fault with
  | intact =>
      dsimp only
      rw [if_pos hready]
      cases has watch watchWrite <;> cases stream.stalled <;> rfl
  | pending _ =>
      dsimp only
      cases has watch watchWrite <;> rfl
  | spent =>
      dsimp only
      cases has watch watchWrite <;> rfl

/-- Who watches for writing is told that a send would be taken. -/
theorem reported_writable (hwatch : has watch watchWrite = true) (hready : stream.stalled = false) :
    (EventMask.reported (interestFor watch) stream.condition).contains .writable = true := by
  rw [EventMask.reported, interestFor, hwatch, Stream.condition, hready]
  cases stream.fault with
  | intact =>
      dsimp only
      split <;> cases has watch watchRead <;> rfl
  | pending _ =>
      dsimp only
      cases has watch watchRead <;> rfl
  | spent =>
      dsimp only
      cases has watch watchRead <;> rfl

/-- What is reported of a stream without a fault, for any interest and condition. -/
theorem reported_of_flags : ∀ reads writes ready stalled : Bool,
    let events := EventMask.reported
      (EventMask.hangup ||| (if reads then EventMask.readable else .empty)
        ||| (if writes then EventMask.writable else .empty))
      ((if ready then EventMask.readable else .empty)
        ||| (if stalled then EventMask.empty else .writable))
    (events.isReadable = true → reads = true ∧ ready = true) ∧ events.isClosed = false
      ∧ (events.isReadable = false → events.isEmpty = false → writes = true ∧ stalled = false) := by
  decide

/-- Of a stream that is intact a report has what is watched and what is the case, and no
    end. -/
theorem reported_of_intact (watch : Status) (hfault : stream.fault = .intact) :
    let events := EventMask.reported (interestFor watch) stream.condition
    (events.isReadable = true → has watch watchRead = true
      ∧ (stream.unread ≠ [] ∨ stream.peerEnd ≠ .sending))
      ∧ events.isClosed = false
      ∧ (events.isReadable = false → events.isEmpty = false → has watch watchWrite = true
        ∧ stream.stalled = false) := by
  have hcondition : stream.condition
      = (if decide (stream.unread ≠ [] ∨ stream.peerEnd ≠ .sending) = true then EventMask.readable
        else .empty)
        ||| (if stream.stalled then EventMask.empty else .writable) := by
    rw [Stream.condition, hfault]
    simp only [decide_eq_true_eq]
  have hflags := reported_of_flags (has watch watchRead) (has watch watchWrite)
    (decide (stream.unread ≠ [] ∨ stream.peerEnd ≠ .sending)) stream.stalled
  rw [← hcondition] at hflags
  simp only [decide_eq_true_eq] at hflags
  exact hflags

/-- After an abrupt end a hangup is reported whatever is asked, and the failure with it until it was
    told. -/
theorem reported_hangup (interest : EventMask) (hfault : stream.fault ≠ .intact) :
    let events := EventMask.reported interest stream.condition
    events.contains .hangup = true ∧ (stream.fault = .spent ∨ events.contains .error = true) := by
  dsimp only
  rw [Stream.condition]
  cases hended : stream.fault with
  | intact => exact absurd hended hfault
  | pending _ =>
      dsimp only
      exact ⟨EventMask.reported_contains (by decide) (by decide),
        .inr (EventMask.reported_contains (by decide) (by decide))⟩
  | spent =>
      dsimp only
      exact ⟨EventMask.reported_contains (by decide) (by decide), .inl rfl⟩

/-- A stream that broke off is reported to everyone, with an error until that has been met. -/
theorem reported_of_fault (interest : EventMask) (hfault : stream.fault ≠ .intact) :
    let events := EventMask.reported interest stream.condition
    events.isClosed = true ∧ events.isEmpty = false
      ∧ (events.intersects (EventMask.error ||| EventMask.invalid) = false →
        stream.fault = .spent) := by
  obtain ⟨hhangup, herror⟩ := reported_hangup interest hfault
  refine ⟨EventMask.intersects_of_contains hhangup rfl,
    EventMask.nonempty_of_contains (by decide) hhangup, ?_⟩
  intro hnone
  refine herror.resolve_right fun hpending => ?_
  cases hnone.symm.trans (EventMask.intersects_of_contains hpending rfl)

/-- Something to receive is reported only where it is watched for, whatever the condition. -/
theorem watchRead_of_reported {condition : EventMask}
    (h : (EventMask.reported (interestFor watch) condition).isReadable = true) :
    has watch watchRead = true := by
  have hasked : (interestFor watch).isReadable = true := EventMask.intersects_of_reported rfl h
  rw [interestFor] at hasked
  cases hwatch : has watch watchRead with
  | true => rfl
  | false =>
      rw [hwatch] at hasked
      cases hwrite : has watch watchWrite <;> rw [hwrite] at hasked <;> cases hasked

/-- Without a fault only what is watched is reported. -/
theorem reported_nothing (hfault : stream.fault = .intact)
    (hread : has watch watchRead = true → ¬ (stream.unread ≠ [] ∨ stream.peerEnd ≠ .sending))
    (hwrite : has watch watchWrite = true → stream.stalled = true) :
    (EventMask.reported (interestFor watch) stream.condition).isEmpty = true := by
  obtain ⟨hreadable, _, hwritable⟩ := reported_of_intact watch hfault
  rw [← Bool.not_eq_false]
  intro hsome
  cases hreports : (EventMask.reported (interestFor watch) stream.condition).isReadable with
  | true =>
      obtain ⟨hwatched, hready⟩ := hreadable hreports
      exact hread hwatched hready
  | false =>
      obtain ⟨hwatched, hreads⟩ := hwritable hreports hsome
      cases (hwrite hwatched).symm.trans hreads

namespace Tuned

variable (h : Tuned c)

include h

theorem reads :
    has (c.status &&& watchMask) watchRead = (!has c.status closing && !c.input.isFull) := by
  rw [h.masked]
  exact has_watchRead_wanted _ _ _

/-- Whoever watches for something to take has room for it. -/
theorem room (hreads : has (c.status &&& watchMask) watchRead = true) :
    has c.status closing = false ∧ c.input.isFull = false := by
  rw [h.reads, Bool.and_eq_true, Bool.not_eq_true', Bool.not_eq_true'] at hreads
  exact hreads

theorem writes :
    has (c.status &&& watchMask) watchWrite = (c.hasPendingOutput || !c.input.isEmpty) := by
  rw [h.masked]
  exact has_watchWrite_wanted _ _ _

theorem watches : has (c.status &&& watchMask) watchRead = true
    ∨ has (c.status &&& watchMask) watchWrite = true := by
  have hwatching := h.watching
  rw [wanted, wantedWatch_eq] at hwatching
  by_contra hneither
  rw [not_or, Bool.not_eq_true, Bool.not_eq_true, h.reads, h.writes] at hneither
  rw [hneither.1, hneither.2] at hwatching
  exact hwatching rfl

end Tuned

/-- Whoever can take something watches for it. -/
theorem Receivable.watched (h : Receivable stream c) (hstate : Tuned c ∨ Untouched c) :
    has (c.status &&& watchMask) watchRead = true := by
  obtain ⟨_, hclosing, hfull⟩ := h
  obtain htuned | huntouched := hstate
  · rw [htuned.reads, hclosing, hfull]
    rfl
  · rw [huntouched.status]
    rfl

/-- Whoever holds something watches for a chance to send it. -/
theorem Sendable.watched (h : Sendable stream c) (hstate : Tuned c ∨ Untouched c) :
    has (c.status &&& watchMask) watchWrite = true := by
  obtain ⟨hheld, _⟩ := h
  obtain htuned | huntouched := hstate
  · rw [htuned.writes, Connection.hasPendingOutput]
    obtain hinput | houtput := hheld
    · rw [hinput]
      exact Bool.or_true _
    · rw [houtput]
      rfl
  · rw [huntouched.status]
    rfl

/-- Of a tuned connection that can neither receive nor send nothing is reported. -/
theorem Tuned.reported_nothing (h : Tuned c) (hreceivable : ¬ Receivable stream c)
    (hsendable : ¬ Sendable stream c) (hfault : stream.fault = .intact) :
    (EventMask.reported (interestFor (c.status &&& watchMask)) stream.condition).isEmpty
      = true := by
  refine Echo.reported_nothing hfault ?_ ?_
  · intro hreads hready
    exact hreceivable ⟨hready, h.room hreads⟩
  · intro hwrites
    rw [h.writes, Connection.hasPendingOutput, Bool.or_eq_true, Bool.not_eq_true',
      Bool.not_eq_true'] at hwrites
    rw [← Bool.not_eq_false]
    exact fun hstalled => hsendable ⟨hwrites.symm, hstalled⟩

/-! ## The wait -/

/-- A connection is among those that the wait found ready exactly if it has a result. -/
theorem mem_readyEntries {result : EventMask} (h : Paired a)
    (hget : a.server.connections.get? fd = some c)
    (hreported : a.server.polled.reported? fd = some result) :
    fd ∈ a.server.readyEntries.map PollEntry.fd ↔ result.isEmpty = false := by
  constructor
  · intro hmem
    obtain ⟨e, he, rfl⟩ := List.mem_map.mp hmem
    obtain ⟨he, hresult⟩ := List.mem_filter.mp he
    have hsame := PollSet.reported?_of_mem h.distinct (List.mem_of_mem_drop he)
    obtain rfl := Option.some.inj (hreported.symm.trans hsame)
    exact Bool.not_eq_true' _ ▸ hresult
  · intro hresult
    obtain ⟨e, he, rfl, rfl⟩ := PollSet.exists_of_reported hreported
    have hseat := Server.mem_roster_of_get? hget
    -- the first entry is that of the listener, which no connection shares
    have hbehind : e ∈ a.server.polled.toList.drop 1 := by
      cases hl : a.server.listener with
      | none =>
          rw [h.ended hl] at hseat
          cases hseat
      | some l =>
          obtain ⟨_, hfirst⟩ := h.first l hl
          rw [List.head?_eq_some_iff] at hfirst
          obtain ⟨rest, hlist⟩ := hfirst
          rw [hlist] at he ⊢
          rcases List.mem_cons.mp he with rfl | hrest
          · exact absurd rfl (h.key_ne_listener hl hseat)
          · exact hrest
    exact List.mem_map_of_mem (List.mem_filter.mpr ⟨hbehind, by rw [hresult]; rfl⟩)

/-- Of a connection a wait reports what its status asks for. -/
theorem Watches.reported {noted : List Ready} {served : List Nat} (h : Watches size noted served a)
    (hwait : a.server.wait a.host = (.ok n, s, h')) (hget : a.server.connections.get? fd = some c) :
    ∃ stream, a.host.kernel.stream? fd = some stream
      ∧ s.polled.reported? fd
          = some (EventMask.reported (interestFor (c.status &&& watchMask)) stream.condition) := by
  obtain ⟨polled, hset, rfl⟩ := Server.wait_ok hwait
  obtain ⟨_, _, stream, hstream, _⟩ := h.echoes.live fd c hget
  refine ⟨stream, hstream, ?_⟩
  rw [PollSet.reported?_of_wait hset, h.asks fd c hget, Option.map_some, Kernel.readiness,
    Kernel.condition_of_stream hstream]

/-- What the set asks of the connections, and whom the next wait reports. -/
structure Wakes (size : Nat) (a : Service) : Prop where
  /-- The interest of a connection is the one that its status says. -/
  asks : ∀ fd c, a.server.connections.get? fd = some c →
    a.server.polled.interest? fd = some (interestFor (c.status &&& watchMask))
  /-- Of a connection that was served it follows from the mark and the buffers, and there
      is always something to wait for. -/
  attended : ∀ fd c, a.server.connections.get? fd = some c → Attended size a c.id →
    ∃ interest, a.server.polled.interest? fd = some interest
      ∧ (interest.contains .readable = true ↔ has c.status closing = false ∧ c.input.isFull = false)
      ∧ (interest.contains .writable = true ↔ c.input.isEmpty = false ∨ c.output.isEmpty = false)
      ∧ (interest.contains .readable = true ∨ interest.contains .writable = true)
  /-- A wait answers as long as there are not more entries than descriptors allowed. -/
  answers : a.host.kernel.descriptorLimit.any (· < a.server.polled.toList.length) = false →
    ∃ n s h', a.server.wait a.host = (.ok n, s, h')
  /-- Whoever can go on is reported, and whoever was served and cannot is not. -/
  reports : ∀ n s h', a.server.wait a.host = (.ok n, s, h') →
    ∀ fd c, a.server.connections.get? fd = some c →
      ∃ stream result, a.host.kernel.stream? fd = some stream ∧ s.polled.reported? fd = some result
        ∧ (Receivable stream c → result.contains .readable = true
          ∧ fd ∈ s.readyEntries.map PollEntry.fd)
        ∧ (Sendable stream c → result.contains .writable = true
          ∧ fd ∈ s.readyEntries.map PollEntry.fd)
        ∧ (Attended size a c.id → ¬ Receivable stream c → ¬ Sendable stream c →
          stream.fault = .intact →
            result.isEmpty = true ∧ fd ∉ s.readyEntries.map PollEntry.fd)

/-- Whoever was served once is tuned. -/
theorem Watches.tuned_of_attended {noted : List Ready} {served : List Nat}
    (h : Watches size noted served a)
    (hget : a.server.connections.get? fd = some c) (hid : c.id ∈ served) : Tuned c :=
  (h.served c.id hid).2 fd c hget rfl

/-- No wake-up is lost and there is no idle spin: in every run, with any clients, between
    rounds. -/
theorem running_wakes (h : Running size a) : Wakes size a := by
  have hwatches := h.watches
  have htuned : ∀ fd c, a.server.connections.get? fd = some c → Attended size a c.id → Tuned c := by
    intro fd c hget hattended
    exact hattended.watches.tuned_of_attended hget List.mem_cons_self
  refine ⟨hwatches.asks, ?_, Server.wait_of_room, ?_⟩
  · intro fd c hget hattended
    have htuned := htuned fd c hget hattended
    refine ⟨_, hwatches.asks fd c hget, ?_, ?_, ?_⟩
    · rw [contains_readable_interestFor, htuned.reads, Bool.and_eq_true, Bool.not_eq_true',
        Bool.not_eq_true']
    · rw [contains_writable_interestFor, htuned.writes, Connection.hasPendingOutput,
        Bool.or_eq_true, Bool.not_eq_true', Bool.not_eq_true']
      exact or_comm
    · rw [contains_readable_interestFor, contains_writable_interestFor]
      exact htuned.watches
  -- what a wait reports is the condition of the stream, masked by what is watched
  · intro n s h' hwait fd c hget
    obtain ⟨stream, hstream, hreported⟩ := hwatches.reported hwait hget
    have hpaired := (h.reachable.of_moment (.of_wait hwait)).paired
    obtain ⟨_, _, rfl⟩ := Server.wait_ok hwait
    have hready := mem_readyEntries hpaired hget hreported
    refine ⟨stream, _, hstream, hreported, ?_, ?_, ?_⟩
    · intro hreceivable
      have hreadable :=
        reported_readable (hreceivable.watched (hwatches.state fd c hget)) hreceivable.1
      exact ⟨hreadable, hready.mpr (EventMask.nonempty_of_contains (by decide) hreadable)⟩
    · intro hsendable
      have hwritable := reported_writable (hsendable.watched (hwatches.state fd c hget)) hsendable.2
      exact ⟨hwritable, hready.mpr (EventMask.nonempty_of_contains (by decide) hwritable)⟩
    · intro hattended hreceivable hsendable hfault
      have hnothing := (htuned fd c hget hattended).reported_nothing hreceivable hsendable hfault
      exact ⟨hnothing, fun hmem => by cases hnothing.symm.trans (hready.mp hmem)⟩

/-! ## A client that does not read -/

/-- One client sent ten bytes and does not read; the first round accepted it. -/
def Loopback.waiting? : Option Service :=
  Loopback.listening?.map fun a =>
    rounded <| acted 0 (·.setStalled true) <| acted 0
      (·.peerSend [1, 2, 3, 4, 5, 6, 7, 8, 9, 10]) a.visit

theorem Loopback.waiting_running (h : Loopback.waiting? = some a) : Running 4 a := by
  obtain ⟨start, hstart, rfl⟩ := Option.map_eq_some_iff.mp h
  have hsent := Loopback.sent_running hstart [1, 2, 3, 4, 5, 6, 7, 8, 9, 10]
  have hstalled := hsent.next (.windowed _ 0 (some 0))
  exact hstalled.next (.round _)

/-- Where the wait finds one connection and nothing else, that connection has its turn. -/
theorem Running.turn_of_alone {id : Nat} (h : Running size a)
    (hready : (a.server.isBound, (a.server.wait a.host).1,
      (woken a).server.readyEntries.map PollEntry.fd,
      ((woken a).server.polled.result 0).isEmpty) = (true, .ok 1, [fd], true))
    (hlive : ((woken a).server.connections.get? fd).map Connection.id = some id) :
    ∃ t c, RoundTurns a [t] ∧ t.ready.fd = fd ∧ t.before.server.connections.get? t.ready.fd = some c
      ∧ c.id = t.ready.id ∧ t.ready.id = id := by
  rcases hwait : a.server.wait a.host with ⟨answer, s, h'⟩
  have hwoken : woken a = ⟨s, h', a.data⟩ := by rw [woken, after_run, hwait]
  rw [hwoken] at hready hlive
  simp only [hwait, Prod.mk.injEq, List.map_eq_singleton_iff,
    Option.map_eq_some_iff] at hready hlive
  obtain ⟨hbound, rfl, ⟨e, hentry, rfl⟩, hquiet⟩ := hready
  obtain ⟨c, hget, rfl⟩ := hlive
  obtain ⟨t, b, hturns, hr, ht, _⟩ := h.turn_of_single hbound hwait (by decide) hquiet hentry hget
  refine ⟨t, c, hturns, ?_, ?_, ?_, ?_⟩
  · rw [hr]
  · rw [ht, hr]
    exact hget
  · rw [hr]
  · rw [hr]

/-- In the next round its connection has its turn. -/
theorem Loopback.waiting_attended (h : Loopback.waiting? = some a) : Attended 4 (rounded a) 1 := by
  have hready : Loopback.waiting?.map (fun a => (a.server.isBound, (a.server.wait a.host).1,
      (woken a).server.readyEntries.map PollEntry.fd, ((woken a).server.polled.result 0).isEmpty))
        = some (true, .ok 1, [4], true) := by decide +kernel
  have hlive :
      Loopback.waiting?.map (fun a => ((woken a).server.connections.get? 4).map Connection.id)
      = some (some 1) := by decide +kernel
  rw [h, Option.map_some, Option.some.injEq] at hready hlive
  have hrun := Loopback.waiting_running h
  obtain ⟨t, c, hturns, _, hget, hid, hone⟩ := hrun.turn_of_alone hready hlive
  exact ⟨a, [t], t, c, hrun, hturns, List.mem_singleton_self _, hget, hid, hone, .refl⟩

/-- When its buffers were full it made room for three bytes, and there were two rounds. -/
def Loopback.idle? : Option Service :=
  Loopback.waiting?.map fun a => rounded^[2] (acted 0 (·.setWindow (some 3)) (rounded^[2] a))

theorem Loopback.idle_running (h : Loopback.idle? = some a) : Running 4 a := by
  obtain ⟨start, hstart, rfl⟩ := Option.map_eq_some_iff.mp h
  have hfull := ((Loopback.waiting_running hstart).next (.round _)).next (.round _)
  have hnarrow := hfull.next (.windowed _ 0 (some 3))
  exact (hnarrow.next (.round _)).next (.round _)

theorem Loopback.idle_attended (h : Loopback.idle? = some a) : Attended 4 a 1 := by
  obtain ⟨start, hstart, rfl⟩ := Option.map_eq_some_iff.mp h
  obtain ⟨x, turns, t, c, hrun, hturns, ht, hget, hid, hr, hlater⟩ :=
    Loopback.waiting_attended hstart
  have hnarrow := (hlater.tail (.round _)).tail (.windowed _ 0 (some 3))
  exact ⟨x, turns, t, c, hrun, hturns, ht, hget, hid, hr, (hnarrow.tail (.round _)).tail (.round _)⟩

/-- Three bytes of its full output went back and what was unread was taken. Seven bytes are
    held and wait to be handed back, but no room is left, and the next wait leaves it alone.
    Once the client makes room for two bytes more, the wait reports it. -/
theorem running_wakes_narrow : ∃ (idle app : Service) (c : Connection Unit) (stream : Stream),
    Loopback.idle? = some idle ∧ Running 4 idle ∧ Attended 4 idle c.id
      ∧ idle.server.connections.get? 4 = some c ∧ idle.host.kernel.stream? 4 = some stream
      ∧ stream.handed = [1, 2, 3] ∧ c.output.segments = ([4], [5, 6, 7])
      ∧ c.input.toList = [8, 9, 10]
      ∧ idle.server.polled.interest? 4 = some (interestFor (watchRead ||| watchWrite))
      ∧ (∃ n s h', idle.server.wait idle.host = (.ok n, s, h')
          ∧ 4 ∉ s.readyEntries.map PollEntry.fd)
      ∧ app = acted 0 (·.setWindow (some 2)) idle ∧ Running 4 app
      ∧ ∃ n s h' result, app.server.wait app.host = (.ok n, s, h')
          ∧ s.polled.reported? 4 = some result
          ∧ result.contains .writable = true ∧ 4 ∈ s.readyEntries.map PollEntry.fd := by
  have hconnection : Loopback.idle?.map (fun a => (a.server.connections.get? 4).map fun c =>
      (c.id, c.output.isEmpty)) = some (some (1, false)) := by decide +kernel
  have hbuffers : Loopback.idle?.map (fun a => (a.server.connections.get? 4).map fun c =>
      (c.output.segments, c.input.toList)) = some (some (([4], [5, 6, 7]), [8, 9, 10])) := by
    decide +kernel
  have hstream : Loopback.idle?.map (fun a => (a.host.kernel.stream? 4).map fun s =>
      (s.handed, s.stalled, s.fault)) = some (some ([1, 2, 3], true, .intact)) := by decide +kernel
  have hnothing : Loopback.idle?.map (fun a => (a.host.kernel.stream? 4).map fun s =>
      (s.unread, s.peerEnd)) = some (some ([], .sending)) := by decide +kernel
  have hagain : Loopback.idle?.map (fun a =>
      ((acted 0 (·.setWindow (some 2)) a).host.kernel.stream? 4).map Stream.stalled)
        = some (some false) := by decide +kernel
  have hasked :
      Loopback.idle?.map (fun a => (a.server.polled.interest? 4, a.host.kernel.descriptorLimit))
      = some (some (interestFor (watchRead ||| watchWrite)), none) := by decide +kernel
  -- what the evaluation found, in terms of the theorem
  obtain ⟨idle, hidle, hparts⟩ := Option.map_eq_some_iff.mp hconnection
  rw [hidle, Option.map_some, Option.some.injEq] at hbuffers hstream hnothing hagain hasked
  simp only [Option.map_eq_some_iff, Prod.mk.injEq] at hparts hstream hagain hasked
  obtain ⟨c, hget, hid, houtput⟩ := hparts
  obtain ⟨stream, hs, hhanded, hstalled, hfault⟩ := hstream
  rw [hget, Option.map_some, Option.some.injEq, Prod.mk.injEq] at hbuffers
  rw [hs, Option.map_some, Option.some.injEq, Prod.mk.injEq] at hnothing
  obtain ⟨hsegments, hinput⟩ := hbuffers
  obtain ⟨hunread, hpeer⟩ := hnothing
  obtain ⟨stream', hs', hreads⟩ := hagain
  obtain ⟨hinterest, hlimits⟩ := hasked
  have hrun : Running 4 idle := Loopback.idle_running hidle
  have happ : Running 4 (acted 0 (·.setWindow (some 2)) idle) := hrun.next (.windowed _ 0 (some 2))
  have hattended : Attended 4 idle c.id := hid ▸ Loopback.idle_attended hidle
  have hnotreceivable : ¬ Receivable stream c := by
    rintro ⟨hsome | hended, _⟩
    · exact hsome hunread
    · exact hended hpeer
  have hnotsendable : ¬ Sendable stream c := by
    intro hsendable
    cases hstalled.symm.trans hsendable.2
  refine ⟨idle, _, c, stream, hidle, hrun, hattended, hget, hs, hhanded, hsegments, hinput,
    hinterest, ?_, rfl, happ, ?_⟩
  · obtain ⟨n, s, h', hwait⟩ := (running_wakes hrun).answers (by rw [hlimits]; rfl)
    obtain ⟨_, result, hsame, _, _, _, hnothing⟩ :=
      (running_wakes hrun).reports n s h' hwait 4 c hget
    obtain rfl := Option.some.inj (hs.symm.trans hsame)
    exact ⟨n, s, h', hwait, (hnothing hattended hnotreceivable hnotsendable hfault).2⟩
  · obtain ⟨n, s, h', hwait⟩ := (running_wakes happ).answers (by
      show idle.host.kernel.descriptorLimit.any _ = false
      rw [hlimits]
      rfl)
    obtain ⟨_, result, hsame, hreported, _, hsends, _⟩ :=
      (running_wakes happ).reports n s h' hwait 4 c hget
    obtain rfl := Option.some.inj (hs'.symm.trans hsame)
    exact ⟨n, s, h', result, hwait, hreported, hsends ⟨.inr houtput, hreads⟩⟩

end EventLoop.Echo
