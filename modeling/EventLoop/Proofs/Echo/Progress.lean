import EventLoop.Proofs.Echo.Wakeups

/-! # Turns get on

    A connection has so many bytes to take and to hand back, and it has to be marked
    closing once (`remaining`). No part of a turn adds to this, and a turn for which a
    wait had a reason takes something off or gives the connection up (`serve_advances`).

    * `Urges` says what the events of a connection that was served tell of its stream:
      if they let it receive there is something to receive, a hangup alone means that the
      failure was told, and otherwise what is held can be sent. A wait reports just such
      events (`Tuned.urges`).
    * `receive_advances` and `send_advances` are the two parts of a turn that may get on;
      the mark is set by the first of them.
    * After a hangup there is nothing to get on with, and the connection is given up
      (`serve_of_spent`). -/

namespace EventLoop.Echo

variable {size i n : Nat} {s s' s'' : Stream} {c c' : Connection Unit} {h h' : Host}
  {fd : Descriptor} {events : EventMask}

/-! ## What is left to do -/

/-- The bytes to take and to hand back, and the mark to set. -/
def remaining (s : Stream) (c : Connection Unit) : Nat :=
  s.arrived.length - s.taken + (s.arrived.length - s.handed.length) + if has c.status
    closing then 0 else 1

/-- Something was taken or handed over, or the mark was set. -/
def Advanced (s : Stream) (c : Connection Unit) (s' : Stream) (c' : Connection Unit) : Prop :=
  s.taken < s'.taken ∨ s.handed.length < s'.handed.length
    ∨ (has c.status closing = false ∧ has c'.status closing = true)

theorem has_closing_marked (status : Status) : has (status ||| closing) closing = true := by
  have habsorbed : (status ||| closing) &&& closing = closing := by
    ext j hj
    rw [BitVec.getElem_and, BitVec.getElem_or]
    cases status[j] <;> cases closing[j] <;> rfl
  rw [has, habsorbed]
  rfl

/-- What is left to do does not depend on what is watched. -/
theorem remaining_tuned (s : Stream) (c : Connection Unit) :
    remaining s (tuned c) = remaining s c := by
  rw [remaining, has_closing_tuned, remaining]

namespace Turn

variable {t t' : Turn}

/-- The mark is never taken back. -/
theorem Keeps.closing (hkeeps : Keeps t t') (hmarked : has t.connection.status closing = true) :
    has t'.connection.status closing = true := by
  obtain hsame | hmark := hkeeps.status
  · rwa [hsame]
  · rw [hmark]
    exact has_closing_marked _

section

variable (hwent : Went size i s t n s' t') (hcarries : Carries size s t.connection)
  (hkeeps : Keeps t t')

include hwent hcarries hkeeps

/-- What is left never grows. -/
theorem Went.remaining_le : remaining s' t'.connection ≤ remaining s t.connection := by
  have htaken := (hwent.served.taken hcarries.sound.taken_le).1
  have hhanded := hwent.served.handed.length_le
  have hclosing := hkeeps.closing
  rw [remaining, remaining, hwent.served.arrived]
  cases hbefore : has t.connection.status closing with
  | true =>
      rw [hclosing hbefore]
      omega
  | false =>
      cases has t'.connection.status closing <;> simp only [Bool.false_eq_true, if_true,
        if_false] <;> omega

/-- And it shrinks exactly if something was done. -/
theorem Went.remaining_lt_iff :
    remaining s' t'.connection < remaining s t.connection
    ↔ Advanced s t.connection s' t'.connection := by
  have htaken := hwent.served.taken hcarries.sound.taken_le
  have hhanded := hwent.served.handed.length_le
  have hall := hwent.carries.echoed.handed_arrived.length_le
  have hclosing := hkeeps.closing
  rw [hwent.served.arrived] at hall
  rw [remaining, remaining, hwent.served.arrived, Advanced]
  cases hbefore : has t.connection.status closing with
  | true =>
      rw [hclosing hbefore]
      simp only [Bool.true_eq_false, if_true, false_and, or_false]
      omega
  | false =>
      cases has t'.connection.status closing <;>
        simp only [Bool.false_eq_true, if_true, if_false, and_false, and_true, or_false, or_true,
          iff_true] <;> omega

end

/-! ## Parts of a turn -/

section

variable (hinput : t.connection.input.WellFormed) (houtput : t.connection.output.WellFormed)

include hinput houtput

/-- The pump changes the two buffers and nothing else. -/
theorem pump_eq : ∃ input output,
    t.pump = { t with connection := { t.connection with input := input, output := output } }
      ∧ Moved (min t.connection.input.toList.length t.connection.output.available)
        t.connection.input
          t.connection.output input output := by
  obtain ⟨input, output, hpump, hmoved⟩ := pump_spec t.connection t.host hinput houtput
  refine ⟨input, output, ?_, hmoved⟩
  rw [pump, hpump]

/-- Something waits in the output after the pump as soon as anything is held. -/
theorem pump_pending (hbacklog : t.backlog = true) : t.pump.connection.hasPendingOutput = true := by
  obtain ⟨input, output, hpump, hmoved⟩ := pump_eq hinput houtput
  have hfits := houtput.capacity_pos
  rw [backlog, Connection.hasPendingOutput, RingBuffer.isEmpty_eq houtput,
    RingBuffer.isEmpty_eq hinput, Bool.or_eq_true, Bool.not_eq_true', Bool.not_eq_true',
    List.isEmpty_eq_false_iff, List.isEmpty_eq_false_iff] at hbacklog
  rw [hpump]
  show (!output.isEmpty) = true
  rw [RingBuffer.isEmpty_eq hmoved.output_wellFormed, Bool.not_eq_true', List.isEmpty_eq_false_iff,
    hmoved.output_toList]
  intro hnil
  obtain ⟨hempty, hmovednil⟩ := List.append_eq_nil_iff.mp hnil
  obtain hpending | hheld := hbacklog
  · exact hpending hempty
  · -- an empty output has room for a byte of the input
    rw [RingBuffer.available_eq houtput, hempty, List.length_nil, List.take_eq_nil_iff] at hmovednil
    have hpos := List.length_pos_iff.mpr hheld
    obtain hzero | hnone := hmovednil
    · omega
    · exact hheld hnone

/-- What the pump leaves waits in the output, if anything does. -/
theorem pump_backlog (hpending : t.pump.connection.hasPendingOutput = false) :
    t.pump.backlog = false := by
  have hnone : t.backlog = false := by
    rw [← Bool.not_eq_true]
    intro hbacklog
    cases hpending.symm.trans (pump_pending hinput houtput hbacklog)
  obtain ⟨input, output, hpump, hmoved⟩ := pump_eq hinput houtput
  rw [backlog, hpending, hpump]
  rw [backlog, RingBuffer.isEmpty_eq hinput, Bool.or_eq_false_iff, Bool.not_eq_false',
    List.isEmpty_iff] at hnone
  show (!input.isEmpty) = false
  rw [RingBuffer.isEmpty_eq hmoved.input_wellFormed, hmoved.input_toList, hnone.2, List.drop_nil]
  rfl

/-- A closing connection cannot be kept where sends fail: what it holds cannot be sent, and without
    that it is finished. -/
theorem isFinished_of_unsent {t' : Turn} (hfails : t.pump.connection.hasPendingOutput = true → ∃ t',
    t.pump.send = .error t')
    (hclosing : has t.pump.connection.status closing = true) (hsend : t.pump.send = .ok t') :
    t'.isFinished = true := by
  cases hpending : t.pump.connection.hasPendingOutput with
  | true =>
      obtain ⟨_, hfailed⟩ := hfails hpending
      cases hfailed.symm.trans hsend
  | false =>
      rw [send, hpending] at hsend
      obtain rfl := Except.ok.inj hsend
      rw [isFinished, hclosing, pump_backlog hinput houtput hpending]
      rfl

end

section

variable (hjoins : t.host.Joins t.connection.fd i s) (hcarries : Carries size s t.connection)

include hjoins hcarries

/-- Where there is something to receive and room for it, receiving gets on. -/
theorem receive_advances (hreadable : events.isReadable = true)
    (hclosing : has t.connection.status closing = false)
    (hroom : t.connection.input.isFull = false) (hready : s.unread ≠ [] ∨ s.Ended)
    (hok : t.receive events = .ok t') (hwent : Went size i s t n s' t') :
    Advanced s t.connection s' t'.connection := by
  obtain ⟨r, input, s₁, h₁, data, hreceive, hon, htook, _, _, _, _, hmoves⟩ :=
    Connection.receive_on hjoins hcarries.input
  obtain ⟨hunread, hended⟩ := hmoves hroom
  rw [receive, if_pos (by rw [hreadable, hclosing]; rfl), hreceive] at hok
  -- whatever the answer is, the stream is the one that the receive left
  have hsame : t'.host = h₁ → s' = s₁ := fun hhost => Host.On.unique hjoins hwent.on (hhost ▸ hon)
  rcases r with e | count | - | -
  · cases hok
  · obtain rfl := Except.ok.inj hok
    have hstream : s' = s₁ := hsame (by rw [countReceived]; split <;> rfl)
    obtain hsome | hover := hready
    · exact .inl (hstream ▸ htook.taken_lt hcarries.sound.taken_le (hunread hsome))
    · obtain hclosed | ⟨_, herror⟩ := hended hover
      · cases hclosed
      · cases herror
  · obtain rfl := Except.ok.inj hok
    obtain hsome | hover := hready
    · exact .inl (hsame rfl ▸ htook.taken_lt hcarries.sound.taken_le (hunread hsome))
    · obtain hclosed | ⟨_, herror⟩ := hended hover
      · cases hclosed
      · cases herror
  · obtain rfl := Except.ok.inj hok
    exact .inr (.inr ⟨hclosing, has_closing_marked _⟩)

/-- While the window is open, some of what waits in the output is handed over. -/
theorem send_advances (hpending : t.connection.hasPendingOutput = true) (hfault : s.fault = .intact)
    (hreads : s.stalled = false) (hok : t.send = .ok t') (hwent : Went size i s t n s' t') :
    Advanced s t.connection s' t'.connection := by
  obtain ⟨r, output, s₁, h₁, hflush, hon, _, _, houtput, _, _, hmoves⟩ :=
    Connection.flush_on hjoins hcarries.sound.tcp hcarries.output
  have hlonger := (hmoves (Bool.not_eq_true' _ ▸ hpending)).1 hfault hreads
  rw [send, if_pos hpending, hflush] at hok
  have hsame : t'.host = h₁ → s' = s₁ := fun hhost => Host.On.unique hjoins hwent.on (hhost ▸ hon)
  rcases r with e | _ | count
  · cases hok
  · obtain rfl := Except.ok.inj hok
    exact .inr (.inl (hsame rfl ▸ hlonger))
  · obtain rfl := Except.ok.inj hok
    refine .inr (.inl (hsame ?_ ▸ hlonger))
    obtain ⟨_, _, hpump, _⟩ :=
      pump_spec { t.connection with output := output } h₁ hcarries.input houtput
    rw [pump]
    show (Echo.pump { t.connection with output := output } h₁).2 = h₁
    rw [hpump]

end

/-- On a stream whose failure was told, sending fails. -/
theorem send_fails (hjoins : t.host.Joins t.connection.fd i s) (htcp : s.family = .tcp)
    (houtput : t.connection.output.WellFormed) (hpending : t.connection.hasPendingOutput = true)
    (hfault : s.fault = .spent) : ∃ t', t.send = .error t' := by
  obtain ⟨r, output, s₁, h₁, hflush, _, _, _, _, _, _, hmoves⟩ :=
    Connection.flush_on hjoins htcp houtput
  obtain ⟨e, rfl⟩ := (hmoves (Bool.not_eq_true' _ ▸ hpending)).2 hfault
  rw [send, if_pos hpending, hflush]
  exact ⟨_, rfl⟩

end Turn

/-! ## The whole turn -/

/-- What the events of a connection that was served tell of its stream. -/
structure Urges (events : EventMask) (s : Stream) (c : Connection Unit) : Prop where
  readable : events.isReadable = true →
    has c.status closing = false ∧ c.input.isFull = false ∧ (s.unread ≠ [] ∨ s.Ended)
  closed : events.isClosed = true → events.intersects (EventMask.error ||| EventMask.invalid)
    = false →
    s.fault = .spent
  otherwise : events.isReadable = false → events.isClosed = false →
    (c.hasPendingOutput || !c.input.isEmpty) = true ∧ s.stalled = false ∧ s.fault = .intact

namespace Turn

variable {t t' t₁ t₂ : Turn}

/-- Without something to read nothing is received, and an end that was announced is marked. -/
theorem receive_of_unreadable (hreadable : events.isReadable = false) :
    t.receive events = .ok (if events.isClosed then t.markClosing else t) := by
  rw [receive, hreadable]
  rfl

/-- A turn whose receive failed ends there, and the connection is not kept. -/
theorem serve_of_error (hfailed : events.intersects (EventMask.error ||| EventMask.invalid) = false)
    (hreceive : t.receive events = .error t₁) : t.serve events = (false, t₁) := by
  rw [serve, hfailed, hreceive]
  rfl

/-- After a receive the turn moves bytes and sends, and the connection is kept unless it is
    finished. -/
theorem serve_of_receive
    (hfailed : events.intersects (EventMask.error ||| EventMask.invalid) = false)
    (hreceive : t.receive events = .ok t₁) :
    t.serve events = match t₁.pump.send with
      | .ok t => (!t.isFinished, t)
      | .error t => (false, t) := by
  rw [serve, hfailed, hreceive]
  rfl

section

variable (hjoins : t.host.Joins t.connection.fd i s) (hinput : t.connection.input.WellFormed)
  (hspent : s.fault = .spent) (hclosed : events.isClosed = true)

include hjoins hinput hspent hclosed

/-- After a hangup a receive that does not fail leaves a mark or something to send back. -/
theorem receive_of_spent (hreceive : t.receive events = .ok t₁) :
    ∃ s₁, t₁.host.Joins t₁.connection.fd i s₁ ∧ s₁.family = s.family ∧ s₁.fault = .spent
      ∧ t₁.connection.input.WellFormed ∧ t₁.connection.output = t.connection.output
      ∧ (has t₁.connection.status closing = true ∨ t₁.connection.input.isEmpty = false) := by
  rw [receive] at hreceive
  split at hreceive
  · obtain ⟨r, input, s₁, h₁, data, hcall, hon, htook, _, hwf, _, hlist, hmoves⟩ :=
      Connection.receive_on hjoins hinput
    have hjoined : h₁.Joins t.connection.fd i s₁ := hjoins.after hon
    have hfamily : s₁.family = s.family := htook.served.family
    have hintact : s.fault ≠ .intact := fun hintact => by cases hspent.symm.trans hintact
    -- the input was full, or bytes came, or the end of the stream was told
    have hheld : (r ≠ .ok .closed ∧ ∀ e, r ≠ .error e) → input.isEmpty = false := by
      rintro ⟨hgoes, hworks⟩
      rw [RingBuffer.isEmpty_eq hwf, List.isEmpty_eq_false_iff, hlist]
      intro hnil
      obtain ⟨hempty, hnothing⟩ := List.append_eq_nil_iff.mp hnil
      have hroom : t.connection.input.isFull = false := by
        rw [RingBuffer.isFull_eq hinput, hempty]
        exact beq_eq_false_iff_ne.mpr (Nat.ne_of_lt hinput.capacity_pos)
      obtain ⟨hbrings, htells⟩ := hmoves hroom
      have hunread : s.unread = [] := by
        by_contra hsome
        exact hbrings hsome hnothing
      obtain hend | ⟨e, hfailed⟩ := htells ⟨hunread, fun hfault => absurd hfault hintact⟩
      · exact hgoes hend
      · exact hworks e hfailed
    rw [hcall] at hreceive
    rcases r with e | count | - | -
    · cases hreceive
    · have hinput₁ := hheld ⟨(fun hend => by cases hend), fun e hfailed => by cases hfailed⟩
      obtain rfl := Except.ok.inj hreceive
      rw [countReceived]
      split <;> exact ⟨s₁, hjoined, hfamily, htook.spent hspent, hwf, rfl, .inr hinput₁⟩
    · have hinput₁ := hheld ⟨(fun hend => by cases hend), fun e hfailed => by cases hfailed⟩
      obtain rfl := Except.ok.inj hreceive
      exact ⟨s₁, hjoined, hfamily, htook.spent hspent, hwf, rfl, .inr hinput₁⟩
    · obtain rfl := Except.ok.inj hreceive
      exact ⟨s₁, hjoined, hfamily, htook.spent hspent, hwf, rfl, .inl (has_closing_marked _)⟩
  · obtain rfl := Except.ok.inj hreceive
    exact ⟨s, hjoins, rfl, hspent, hinput, rfl, .inl (has_closing_marked _)⟩

/-- A connection is given up after a hangup: what it holds cannot be sent, and without that it is
    finished. -/
theorem serve_of_spent (htcp : s.family = .tcp) (houtput : t.connection.output.WellFormed)
    (hfailed : events.intersects (EventMask.error ||| EventMask.invalid) = false) :
    (t.serve events).1 = false := by
  cases hreceive : t.receive events with
  | error t₁ => rw [serve_of_error hfailed hreceive]
  | ok t₁ =>
      obtain ⟨s₁, hjoins₁, hfamily, hspent₁, hinput₁, hsame, hleft⟩ :=
        receive_of_spent hjoins hinput hspent hclosed hreceive
      have houtput₁ : t₁.connection.output.WellFormed := hsame ▸ houtput
      obtain ⟨input, output, hpump, hmoved⟩ := pump_eq hinput₁ houtput₁
      have hfails : t₁.pump.connection.hasPendingOutput = true →
          ∃ t₂, t₁.pump.send = .error t₂ := by
        rw [hpump]
        intro hpending
        exact send_fails hjoins₁ (hfamily.trans htcp) hmoved.output_wellFormed hpending hspent₁
      rw [serve_of_receive hfailed hreceive]
      cases hsend : t₁.pump.send with
      | error t₂ => rfl
      | ok t₂ =>
          obtain hmarked | hheld := hleft
          · have hfinished :=
              isFinished_of_unsent hinput₁ houtput₁ hfails ((pump_keeps t₁).closing hmarked) hsend
            show (!t₂.isFinished) = false
            rw [hfinished]
            rfl
          · have hbacklog : t₁.backlog = true := by
              rw [backlog, hheld]
              exact Bool.or_true _
            obtain ⟨_, hfailed₂⟩ := hfails (pump_pending hinput₁ houtput₁ hbacklog)
            cases hfailed₂.symm.trans hsend

end

section

variable (hjoins : t.host.Joins t.connection.fd i s) (hcarries : Carries size s t.connection)

include hjoins hcarries

/-- A turn with a reason other than a hangup gets on. -/
theorem kept_advances (hurges : Urges events s t.connection) (hclosed : events.isClosed = false)
    (hreceive : t.receive events = .ok t₁) (hsend : t₁.pump.send = .ok t₂)
    (hwent : Went size i s t n s' t₂) :
    Advanced s t.connection s' t₂.connection := by
  have hfault : events.isClosed = true → s.fault ≠ .intact :=
    fun htold => by cases hclosed.symm.trans htold
  have hkeeps₁ := receive_keeps t events
  have hkeeps₂ := send_keeps t₁.pump
  rw [hreceive] at hkeeps₁
  rw [hsend] at hkeeps₂
  obtain ⟨s₁, hwent₁⟩ := (hreceive ▸ receive_goes hjoins hcarries hfault).went
  have hjoins₁ := hwent₁.joins hjoins
  have hpumped := pump_went hjoins₁ hwent₁.carries
  have hjoins₂ := hpumped.joins hjoins₁
  obtain ⟨s₂, hwent₂⟩ := (hsend ▸ send_goes hjoins₂ hpumped.carries).went
  have hwhole := (hwent₁.trans hpumped).trans hwent₂
  have hkeeps : Keeps t t₂ := hkeeps₁.trans ((pump_keeps t₁).trans hkeeps₂)
  obtain rfl := Host.On.unique hjoins hwent.on hwhole.on
  -- no part adds to what is left, so one part that gets on is enough
  have hle₁ := hwent₁.remaining_le hcarries hkeeps₁
  have hle₂ := hpumped.remaining_le hwent₁.carries (pump_keeps t₁)
  have hle₃ := hwent₂.remaining_le hpumped.carries hkeeps₂
  have hlt₁ := (hwent₁.remaining_lt_iff hcarries hkeeps₁).mpr
  have hlt₃ := (hwent₂.remaining_lt_iff hpumped.carries hkeeps₂).mpr
  refine (hwhole.remaining_lt_iff hcarries hkeeps).mp ?_
  cases hreadable : events.isReadable with
  | true =>
      obtain ⟨hclosing, hroom, hready⟩ := hurges.readable hreadable
      have hadvances :=
        hlt₁ (receive_advances hjoins hcarries hreadable hclosing hroom hready hreceive hwent₁)
      omega
  | false =>
      obtain ⟨hbacklog, hreads, hintact⟩ := hurges.otherwise hreadable hclosed
      rw [receive_of_unreadable hreadable, hclosed] at hreceive
      obtain rfl := Except.ok.inj hreceive
      obtain rfl := Host.On.unique hjoins hwent₁.on hjoins.on
      have hpending := pump_pending hcarries.input hcarries.output hbacklog
      have hadvances :=
        hlt₃ (send_advances hjoins₂ hpumped.carries hpending hintact hreads hsend hwent₂)
      omega

/-- A turn with a reason gets on, or gives the connection up. -/
theorem serve_advances (hurges : Urges events s t.connection) (hserve : t.serve events = (true, t'))
    (hwent : Went size i s t n s' t') : Advanced s t.connection s' t'.connection := by
  by_cases hfailed : events.intersects (EventMask.error ||| EventMask.invalid) = true
  · rw [serve, if_pos hfailed] at hserve
    cases hserve
  rw [Bool.not_eq_true] at hfailed
  -- an announced end would have ended the connection in this turn
  have hclosed : events.isClosed = false := by
    rw [← Bool.not_eq_true]
    intro hclosed
    have hgone := serve_of_spent hjoins hcarries.input (hurges.closed hclosed hfailed) hclosed
      hcarries.sound.tcp
      hcarries.output hfailed
    rw [hserve] at hgone
    cases hgone
  cases hreceive : t.receive events with
  | error t₁ => cases (serve_of_error hfailed hreceive).symm.trans hserve
  | ok t₁ =>
      rw [serve_of_receive hfailed hreceive] at hserve
      cases hsend : t₁.pump.send with
      | error t₂ =>
          rw [hsend] at hserve
          cases hserve
      | ok t₂ =>
          rw [hsend] at hserve
          obtain ⟨_, rfl⟩ := Prod.mk.inj hserve
          exact kept_advances hjoins hcarries hurges hclosed hreceive hsend hwent

end

end Turn

/-- A wait reports a connection that was served only for a reason. -/
theorem Tuned.urges (h : Tuned c)
    (hresult : (EventMask.reported (interestFor (c.status &&& watchMask)) s.condition).isEmpty
      = false) :
    Urges (EventMask.reported (interestFor (c.status &&& watchMask)) s.condition) s c := by
  -- an intact stream reports what is the case, and a broken one an end
  by_cases hfault : s.fault = .intact
  · obtain ⟨hreadable, hclosed, hwritable⟩ := reported_of_intact (c.status &&& watchMask) hfault
    refine ⟨?_, ?_, ?_⟩
    · intro hreports
      obtain ⟨hreads, hready⟩ := hreadable hreports
      obtain ⟨hclosing, hfull⟩ := h.room hreads
      refine ⟨hclosing, hfull, ?_⟩
      by_cases hunread : s.unread = []
      · exact .inr ⟨hunread, fun _ => hready.resolve_left (not_not_intro hunread)⟩
      · exact .inl hunread
    · intro hreports
      cases hclosed.symm.trans hreports
    · intro hnothing _
      obtain ⟨hwrites, hstalled⟩ := hwritable hnothing hresult
      rw [h.writes] at hwrites
      exact ⟨hwrites, hstalled, hfault⟩
  · obtain ⟨hclosed, _, hspent⟩ := reported_of_fault (interestFor (c.status &&& watchMask)) hfault
    refine ⟨?_, fun _ => hspent, ?_⟩
    · intro hreports
      obtain ⟨hclosing, hfull⟩ := h.room (watchRead_of_reported hreports)
      refine ⟨hclosing, hfull, ?_⟩
      by_cases hunread : s.unread = []
      · exact .inr ⟨hunread, fun hintact => absurd hintact hfault⟩
      · exact .inl hunread
    · intro _ hnothing
      cases hclosed.symm.trans hnothing

end EventLoop.Echo
