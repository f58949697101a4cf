import EventLoop.Transport.Rehearsal

/-! # Transports that keep their contract

    `Transport.Honest` for the transports at hand: writing two runs by joining
    them keeps the contract of the plain write, and the rehearsed transports
    take and deliver no more than they may. -/

namespace EventLoop

variable {σ : Type}

/-- Joining two runs takes no more than the plain write does. -/
theorem Transport.joining_honest {send : Bytes → σ → Except Error Nat × σ}
    {recv : Nat → σ → Except Error Arrival × σ} {request : Nat → σ → Bool × σ}
    (hsend : ∀ data s n s', send data s = (.ok n, s') → n ≤ data.length)
    (hrecv : ∀ room s data s', recv room s = (.ok (.bytes data), s') → data.length ≤ room) :
    (Transport.joining send recv request).Honest := by
  refine ⟨hsend, ?_, hrecv⟩
  intro first second s n s' h
  have h' : joinPair send request first second s = (.ok n, s') := h
  rw [joinPair] at h'
  by_cases hempty : second.isEmpty = true
  · rw [if_pos hempty] at h'
    exact Nat.le_add_right_of_le (hsend _ _ _ _ h')
  · rw [if_neg hempty] at h'
    rcases hreq : request (first.length + second.length) s with ⟨granted, s₁⟩
    simp only [hreq] at h'
    cases granted with
    | false => cases h'
    | true =>
        have hle := hsend _ _ _ _ h'
        rwa [List.length_append] at hle

namespace Rehearsal

/-- A rehearsed send takes no more than it is given. -/
theorem send_le (data : Bytes) (r : Rehearsal) (n : Nat) (r' : Rehearsal)
    (h : Rehearsal.send data r = (.ok n, r')) : n ≤ data.length := by
  rw [Rehearsal.send] at h
  cases hfail : r.failure with
  | some errno =>
      rw [hfail] at h
      cases h
  | none =>
      rw [hfail] at h
      obtain rfl := Except.ok.inj (congrArg Prod.fst h)
      exact Nat.min_le_left _ _

theorem recv_le (room : Nat) (r : Rehearsal) (data : Bytes) (r' : Rehearsal)
    (h : Rehearsal.recv room r = (.ok (.bytes data), r')) : data.length ≤ room := by
  simp only [Rehearsal.recv] at h
  split at h
  case h_5 cue rest hcues =>
    obtain rfl := Arrival.bytes.inj (Except.ok.inj (congrArg Prod.fst h))
    exact List.length_take_le _ _
  all_goals cases h

theorem joining_honest : Rehearsal.joining.Honest := Transport.joining_honest send_le recv_le

theorem vectored_honest : Rehearsal.vectored.Honest := by
  refine ⟨send_le, ?_, recv_le⟩
  intro first second r n r' h
  have h' : Rehearsal.sendVectored first second r = (.ok n, r') := h
  rw [Rehearsal.sendVectored] at h'
  cases hfail : r.failure with
  | some errno =>
      rw [hfail] at h'
      cases h'
  | none =>
      rw [hfail] at h'
      obtain rfl := Except.ok.inj (congrArg Prod.fst h')
      exact Nat.min_le_left _ _

end Rehearsal

end EventLoop
