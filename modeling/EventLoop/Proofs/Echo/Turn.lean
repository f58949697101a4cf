import EventLoop.Proofs.Echo.Pump
import EventLoop.Proofs.Kernel.Accounts
import EventLoop.Proofs.Socket.Transfers

/-! # What a turn keeps

    An echo connection accounts for every byte that it took from its stream: it was
    handed back, or waits in the output, or behind that in the input (`Carries`). And
    it is marked closing only once nothing is left to take, unless the peer is gone.

    * Each part of a turn goes on in this way (`Goes`), whatever comes of it, and counts
      an error exactly if it fails; `goes_bind` puts the parts together.
    * `serve_went` is the whole turn. A connection that is given up without an error has
      nothing in its buffers and is closing, so that `Carries.finished` says what its
      stream looks like. -/

namespace EventLoop.Echo

variable {size i : Nat} {s s' : Stream} {c : Connection Unit}

/-- A connection and its stream account for every byte that was taken. -/
structure Carries (size : Nat) (s : Stream) (c : Connection Unit) : Prop where
  sound : s.Sound
  held : s.ownEnd = .held
  input : c.input.WellFormed
  output : c.output.WellFormed
  input_capacity : c.input.capacity = size
  output_capacity : c.output.capacity = size
  ledger : s.arrived.take s.taken = s.handed ++ c.output.toList ++ c.input.toList
  drained : has c.status closing = true → s.peerEnd ≠ .gone → s.peerEnd = .finished ∧ s.unread = []

namespace Carries

/-- What was handed over is a part of what was taken. -/
theorem echoed (h : Carries size s c) : s.Echoed := by
  rw [Stream.Echoed, h.ledger, List.append_assoc]
  exact List.prefix_append _ _

/-- What the peer does adds to what arrived only. -/
theorem acts (h : Carries size s c) (hacts : s.Acts s') : Carries size s' c where
  sound := hacts.sound h.sound
  held := hacts.ownEnd.trans h.held
  input := h.input
  output := h.output
  input_capacity := h.input_capacity
  output_capacity := h.output_capacity
  ledger := by
    obtain ⟨more, hmore⟩ := hacts.arrived
    rw [hacts.taken, hacts.handed, ← hmore, List.take_append_of_le_length h.sound.taken_le]
    exact h.ledger
  drained := by
    intro hclosing hpeer
    have hbefore : s.peerEnd ≠ .gone := fun hgone => hpeer (hacts.gone hgone)
    obtain ⟨hfinished, hunread⟩ := h.drained hclosing hbefore
    -- a peer that said it was done sends no more
    have hdone : s.peerEnd ≠ .sending :=
      fun hsending => by rw [hfinished] at hsending; cases hsending
    refine ⟨?_, ?_⟩
    · cases hend : s'.peerEnd with
      | sending => exact absurd hend (hacts.done hdone)
      | finished => rfl
      | gone => exact absurd hend hpeer
    · rw [Stream.unread, hacts.arrived_of_done hdone, hacts.taken]
      exact hunread

/-- The mark may be set where nothing is left to take. -/
theorem mark (h : Carries size s c)
    (hdrained : s.peerEnd ≠ .gone → s.peerEnd = .finished ∧ s.unread = []) :
    Carries size s { c with status := c.status ||| closing } where
  sound := h.sound
  held := h.held
  input := h.input
  output := h.output
  input_capacity := h.input_capacity
  output_capacity := h.output_capacity
  ledger := h.ledger
  drained := fun _ => hdrained

/-- A stream at its end, with a peer that did not go away, has been taken whole. -/
theorem drained_of_ended (h : Carries size s c) (hended : s.Ended) (hpeer : s.peerEnd ≠ .gone) :
    s.peerEnd = .finished ∧ s.unread = [] := by
  refine ⟨?_, hended.1⟩
  cases hend : s.peerEnd with
  | sending => exact absurd hend (hended.2 (h.sound.intact hpeer))
  | finished => rfl
  | gone => exact absurd hend hpeer

/-- With nothing in its buffers and nothing to take a connection has given everything back. -/
theorem returned (h : Carries size s c) (houtput : c.output.isEmpty = true)
    (hinput : c.input.isEmpty = true) (hunread : s.unread = []) : s.handed = s.arrived := by
  have hledger := h.ledger
  rw [RingBuffer.isEmpty_eq h.output, List.isEmpty_iff] at houtput
  rw [RingBuffer.isEmpty_eq h.input, List.isEmpty_iff] at hinput
  rw [houtput, hinput, List.append_nil, List.append_nil] at hledger
  have hall := s.take_taken_append_unread
  rw [hunread, List.append_nil] at hall
  exact hledger.symm.trans hall

/-- And a closing one has nothing to take. -/
theorem finished (h : Carries size s c) (hclosing : has c.status closing = true)
    (houtput : c.output.isEmpty = true) (hinput : c.input.isEmpty = true)
    (hpeer : s.peerEnd ≠ .gone) :
    s.peerEnd = .finished ∧ s.taken = s.arrived.length ∧ s.handed = s.arrived := by
  obtain ⟨hfinished, hunread⟩ := h.drained hclosing hpeer
  refine ⟨hfinished, ?_, h.returned houtput hinput hunread⟩
  exact Nat.le_antisymm h.sound.taken_le (Stream.unread_eq_nil_iff.mp hunread)

end Carries

namespace Turn

variable {t t' t'' : Turn} {s'' : Stream} {events : EventMask} {m n : Nat}

/-- A turn is finished when the connection is marked and holds nothing any more. -/
theorem isFinished_iff : t.isFinished = true ↔ has t.connection.status closing = true
    ∧ t.connection.output.isEmpty = true ∧ t.connection.input.isEmpty = true := by
  rw [isFinished, backlog, Connection.hasPendingOutput, Bool.and_eq_true, Bool.not_eq_true',
    Bool.or_eq_false_iff, Bool.not_eq_false', Bool.not_eq_false']

/-- A turn went on for a while, counting some errors, and its connection still accounts
    for its bytes. -/
structure Went (size i : Nat) (s : Stream) (t : Turn) (count : Nat) (s' : Stream) (t' : Turn) :
    Prop where
  id : t'.connection.id = t.connection.id
  socket : t'.connection.socket = t.connection.socket
  on : t.host.On i s' t'.host
  served : s.Served s'
  carries : Carries size s' t'.connection
  errors : t'.stats.errors = t.stats.errors + count

theorem Went.trans (h : Went size i s t m s' t') (h' : Went size i s' t' n s'' t'') :
    Went size i s t (m + n) s'' t'' where
  id := h'.id.trans h.id
  socket := h'.socket.trans h.socket
  on := h.on.trans h'.on
  served := h.served.trans h'.served
  carries := h'.carries
  errors := by rw [h'.errors, h.errors, Nat.add_assoc]

/-- The connection keeps its stream. -/
theorem Went.joins (h : Went size i s t n s' t') (hjoins : t.host.Joins t.connection.fd i s) :
    t'.host.Joins t'.connection.fd i s' := by
  have hfd : t'.connection.fd = t.connection.fd := congrArg Socket.fd h.socket
  rw [hfd]
  exact hjoins.after h.on

/-- A part of a turn goes on, or it fails and counts that as an error. -/
inductive Goes (size i : Nat) (s : Stream) (t : Turn) : Outcome → Prop
  | on {s' : Stream} {t' : Turn} (h : Went size i s t 0 s' t') : Goes size i s t (.ok t')
  | failed {s' : Stream} {t' : Turn} (h : Went size i s t 1 s' t') : Goes size i s t (.error t')

theorem Goes.after {outcome : Outcome} (h : Goes size i s' t' outcome)
    (hwent : Went size i s t 0 s' t') :
    Goes size i s t outcome := by
  cases h with
  | on hmore => exact .on (hwent.trans hmore)
  | failed hmore => exact .failed (hwent.trans hmore)

theorem Goes.went (h : Goes size i s t (.ok t')) : ∃ s', Went size i s t 0 s' t' := by
  cases h with
  | on hwent => exact ⟨_, hwent⟩

/-- One part goes on after another, unless that one failed. -/
theorem goes_bind {outcome : Outcome} {next : Turn → Outcome} (h : Goes size i s t outcome)
    (hnext : ∀ s' t', Went size i s t 0 s' t' → Goes size i s' t' (next t')) :
    Goes size i s t (outcome >>= next) := by
  cases h with
  | on hwent => exact (hnext _ _ hwent).after hwent
  | failed hwent => exact .failed hwent

variable (hjoins : t.host.Joins t.connection.fd i s) (hcarries : Carries size s t.connection)

include hjoins hcarries

theorem went_refl : Went size i s t 0 s t := ⟨rfl, rfl, hjoins.on, .refl s, hcarries, rfl⟩

/-- A part that fails counts one error. -/
theorem fail_goes : Goes size i s t t.fail := .failed ⟨rfl, rfl, hjoins.on, .refl s, hcarries, rfl⟩

/-- The mark may be set once everything was taken. -/
theorem markClosing_went (hdrained : s.peerEnd ≠ .gone → s.peerEnd = .finished ∧ s.unread = []) :
    Went size i s t 0 s t.markClosing := ⟨rfl, rfl, hjoins.on, .refl s, hcarries.mark hdrained, rfl⟩

/-- Receiving goes on, or it fails and is counted. -/
theorem receive_goes (hevents : events.isClosed = true → s.fault ≠ .intact) :
    Goes size i s t (t.receive events) := by
  rw [receive]
  split
  · obtain ⟨r, input, s', h', data, hreceive, hon, htook, hended, hinput, hcapacity, hlist, _⟩ :=
      Connection.receive_on hjoins hcarries.input
    have hkept : Carries size s' { t.connection with input := input } := by
      refine ⟨htook.served.sound hcarries.sound, htook.served.ownEnd.trans hcarries.held, hinput,
        hcarries.output, hcapacity.trans hcarries.input_capacity, hcarries.output_capacity, ?_, ?_⟩
      · rw [htook.taken, hcarries.ledger, htook.handed, hlist, List.append_assoc _ _ data]
      · intro hclosing hpeer
        obtain ⟨hfinished, hunread⟩ := hcarries.drained hclosing (htook.served.peerEnd ▸ hpeer)
        refine ⟨htook.served.peerEnd.trans hfinished, ?_⟩
        rw [Stream.unread_eq_nil_iff] at hunread ⊢
        rw [htook.served.arrived]
        exact Nat.le_trans hunread (htook.served.taken hcarries.sound.taken_le).1
    have hwent : Went size i s t 0 s'
        { t with connection := { t.connection with input := input }, host := h' } :=
      ⟨rfl, rfl, hon, htook.served, hkept, rfl⟩
    rw [hreceive]
    rcases r with e | count | - | -
    · exact .failed ⟨rfl, rfl, hon, htook.served, hkept, rfl⟩
    · dsimp only
      rw [countReceived]
      split
      · exact .on hwent
      · exact .on ⟨rfl, rfl, hon, htook.served, hkept, rfl⟩
    · exact .on hwent
    · exact .on ⟨rfl, rfl, hon, htook.served, hkept.mark (hkept.drained_of_ended (hended rfl)), rfl⟩
  · -- a hangup is told only where the stream is at fault, and then the peer is gone
    split
    · rename_i hclosed
      refine .on (markClosing_went hjoins hcarries fun hpeer => ?_)
      exact absurd (hcarries.sound.intact hpeer) (hevents hclosed)
    · exact .on (went_refl hjoins hcarries)

/-- Moving bytes from input to output loses none and fails never. -/
theorem pump_went : Went size i s t 0 s t.pump := by
  obtain ⟨input, output, hpump, hmoved⟩ :=
    pump_spec t.connection t.host hcarries.input hcarries.output
  rw [pump, hpump]
  refine ⟨rfl, rfl, hjoins.on, .refl s, ?_, rfl⟩
  refine ⟨hcarries.sound, hcarries.held, hmoved.input_wellFormed, hmoved.output_wellFormed,
    hmoved.input_capacity.trans hcarries.input_capacity,
    hmoved.output_capacity.trans hcarries.output_capacity, ?_, hcarries.drained⟩
  rw [hcarries.ledger, hmoved.output_toList, hmoved.input_toList, List.append_assoc _ (_ ++ _),
    List.append_assoc _ (List.take _ _), List.take_append_drop, List.append_assoc]

/-- Sending goes on, whatever part was taken, or it fails and is counted. -/
theorem send_goes : Goes size i s t t.send := by
  rw [send]
  split
  · obtain ⟨r, output, s', h', hflush, hon, hserved, htaken, houtput, hcapacity, hlist, _⟩ :=
      Connection.flush_on hjoins hcarries.sound.tcp hcarries.output
    have hkept : Carries size s' { t.connection with output := output } := by
      refine ⟨hserved.sound hcarries.sound, hserved.ownEnd.trans hcarries.held, hcarries.input,
        houtput, hcarries.input_capacity, hcapacity.trans hcarries.output_capacity, ?_, ?_⟩
      · rw [hserved.arrived, htaken, hcarries.ledger, hlist]
      · intro hclosing hpeer
        rw [hserved.peerEnd] at hpeer ⊢
        rw [Stream.unread, hserved.arrived, htaken]
        exact hcarries.drained hclosing hpeer
    rw [hflush]
    rcases r with e | _ | count
    · exact .failed ⟨rfl, rfl, hon, hserved, hkept, rfl⟩
    · exact .on ⟨rfl, rfl, hon, hserved, hkept, rfl⟩
    · have hsent : Went size i s t 0 s'
          ({ t with connection := { t.connection with output := output }, host := h' }.countSent
            (count + 1)) :=
        ⟨rfl, rfl, hon, hserved, hkept, rfl⟩
      exact .on (hsent.trans (pump_went (hsent.joins hjoins) hkept))
  · exact .on (went_refl hjoins hcarries)

/-- The whole turn, which counts one error at most. Without an error a connection is given up
    only when it is finished. -/
theorem serve_went (hevents : events.isClosed = true → s.fault ≠ .intact) :
    ∃ s' count, Went size i s t count s' (t.serve events).2 ∧ count ≤ 1
      ∧ ((t.serve events).1 = false → count = 0 → (t.serve events).2.isFinished = true) := by
  have hgoes :
      Goes size i s t (if events.intersects (EventMask.error ||| EventMask.invalid) then t.fail
      else do (← t.receive events).pump.send) := by
    split
    · exact fail_goes hjoins hcarries
    · refine goes_bind (receive_goes hjoins hcarries hevents) fun s' t' hwent => ?_
      have hpumped := pump_went (hwent.joins hjoins) hwent.carries
      exact (send_goes (hpumped.joins (hwent.joins hjoins)) hpumped.carries).after hpumped
  rw [serve]
  generalize (if events.intersects (EventMask.error ||| EventMask.invalid) then t.fail
    else do (← t.receive events).pump.send) = outcome at hgoes ⊢
  cases hgoes with
  | @on s' t' hwent =>
      refine ⟨s', 0, hwent, Nat.zero_le 1, fun hkept _ => ?_⟩
      show t'.isFinished = true
      rw [← Bool.not_eq_false']
      exact hkept
  | failed hwent => exact ⟨_, 1, hwent, Nat.le_refl 1, fun _ hcount => by cases hcount⟩

end Turn

end EventLoop.Echo
