import EventLoop.Proofs.RingBuffer.Growth
import Mathlib.Order.Bounds.Basic

/-! # Operations that fail

    An append fails where growth is refused, a flush where its call fails, and a fill where
    its first receive brings no bytes. Each of them gives up before it writes an offset, so
    the buffer comes out as it went in (`perform_of_fails`), and a run with a failed attempt
    in it goes on as the run without it does (`performAll_of_fails`). -/

namespace EventLoop.RingBuffer

variable {σ : Type} {t : Transport σ} {s : σ} {b : RingBuffer} {data : Bytes} {allowGrow : Bool}
variable {memory : Allocator}

/-- An operation fails: growth is refused, the transport fails, or there is nothing to receive. -/
def Fails (b : RingBuffer) : Operation σ → Prop
  | .append data allowGrow memory => (b.append data allowGrow memory).growth.granted = false
  | .flush t s => ∃ e, (b.flushTo t s).1 = .error e
  | .fill t s => ∀ count, (b.fillFrom t s).1 ≠ .ok (.read count)
  | _ => False

/-! ## Appends -/

/-- Growth is refused exactly when it is needed and memory does not afford it. -/
theorem append_refused_iff : (b.append data true memory).growth.granted = false
    ↔ b.available < data.length ∧ ¬ memory.Affords (b.length + data.length) := by
  rw [← Bool.not_eq_true, append_granted_iff, Classical.not_imp]

/-- There is no memory where the least power of two is no word or its request is refused. -/
theorem not_affords_iff {wanted power : Nat}
    (hpower : IsLeast {p | p.isPowerOfTwo ∧ wanted ≤ p} power) :
    ¬ memory.Affords wanted ↔ maxWord < power ∨ (memory.request power).1 = false := by
  obtain rfl := hpower.unique (isLeast_powerFrom wanted)
  rw [Allocator.Affords, not_and_or, Nat.not_le, Bool.not_eq_true]

/-- An append whose growth is refused leaves buffer and memory as they were. -/
theorem append_of_not_granted (hrefused : (b.append data allowGrow memory).growth.granted = false) :
    ∃ wanted cause, b.append data allowGrow memory = ⟨0, b, .refused wanted cause, memory⟩ := by
  cases allowGrow with
  | true =>
      obtain ⟨hcut, hnone⟩ := append_refused_iff.mp hrefused
      obtain ⟨cause, happend⟩ := append_eq_refused hcut (grantedCapacity_of_not_affords hnone)
      exact ⟨_, cause, happend⟩
  | false =>
      rw [append_granted_of_fixed] at hrefused
      cases hrefused

/-! ## Flushes -/

/-- A failure of the one call that offers bytes is the flush's. -/
theorem flushTo_of_offer_error {e : Error} {s' : σ} (hsome : b.isEmpty = false)
    (hoffer : b.offer t s = (.error e, s')) : b.flushTo t s = (.error e, b, s') := by
  rw [flushTo_eq t s hsome, hoffer]

/-- A flush that fails had bytes to offer, and the call that offered them failed. -/
theorem offer_of_flushTo_error {e : Error} (herror : (b.flushTo t s).1 = .error e) :
    b.isEmpty = false ∧ ∃ s', b.offer t s = (.error e, s') := by
  cases hempty : b.isEmpty with
  | true =>
      rw [flushTo_of_empty t s hempty] at herror
      cases herror
  | false =>
      rw [flushTo_eq t s hempty] at herror
      rcases hoffer : b.offer t s with ⟨e' | sent, s'⟩
      · rw [hoffer] at herror
        cases herror
        exact ⟨rfl, s', rfl⟩
      · rw [hoffer] at herror
        cases herror

/-- Without memory for the temporary, held bytes at both ends of the storage are not sent. -/
theorem offer_joining_refused (h : b.WellFormed) {send : Bytes → σ → Except Error Nat × σ}
    {recv : Nat → σ → Except Error Arrival × σ} {request : Nat → σ → Bool × σ} {s' : σ}
    (hwrapped : b.segments.2 ≠ []) (hrefused : request b.length s = (false, s')) :
    b.offer (.joining send recv request) s = (.error (.outOfMemory b.length), s') := by
  have htotal : b.segments.1.length + b.segments.2.length = b.length := by
    rw [← length_toList h, toList, List.length_append]
  rw [offer_wrapped _ _ hwrapped]
  simp only [Transport.joining, Transport.joinPair]
  rw [if_neg (by simpa using hwrapped), htotal, hrefused]

/-! ## Fills -/

/-- Once bytes have arrived, a fill answers that it read some. -/
theorem fillRuns_reads (t : Transport σ) (runs : Nat) {total : Nat} (htotal : total ≠ 0)
    (b : RingBuffer) (s : σ) :
    ∃ count, (fillRuns t runs total b s).1 = .ok (.read count) := by
  -- on the runs: once bytes have come the answer is their number
  induction runs generalizing total b s with
  | zero => exact ⟨total, rfl⟩
  | succ runs ih =>
      rw [fillRuns]
      by_cases hroom : b.available = 0
      · rw [if_pos hroom]
        exact ⟨total, rfl⟩
      · rw [if_neg hroom]
        rcases t.recv b.freeRun s with ⟨e | ⟨data⟩ | _ | _, s'⟩
        · exact ⟨total, if_neg htotal⟩
        · dsimp only
          split
          · exact ⟨_, rfl⟩
          · exact ih (by omega) _ _
        · exact ⟨total, congrArg Except.ok (if_neg htotal)⟩
        · exact ⟨total, congrArg Except.ok (if_neg htotal)⟩

/-- A fill that did not read met room, and a first receive that brought nothing. -/
theorem recv_of_fails (hfails : ∀ count, (b.fillFrom t s).1 ≠ .ok (.read count)) :
    b.available ≠ 0 ∧ ∀ data, (t.recv b.freeRun s).1 ≠ .ok (.bytes data) := by
  by_cases hroom : b.available = 0
  · refine absurd ?_ (hfails 0)
    rw [fillFrom, fillRuns, if_pos hroom]
  · refine ⟨hroom, ?_⟩
    intro data hbytes
    rw [fillFrom, fillRuns, if_neg hroom] at hfails
    rcases hrecv : t.recv b.freeRun s with ⟨r, s'⟩
    obtain rfl : r = .ok (.bytes data) := by
      rw [hrecv] at hbytes
      exact hbytes
    rw [hrecv] at hfails
    dsimp only at hfails
    split at hfails
    · exact hfails _ rfl
    · have hpos := freeRun_pos hroom
      have hsome : 0 + data.length ≠ 0 := by omega
      obtain ⟨count, hreads⟩ := fillRuns_reads t 1 hsome (b.commit data) s'
      exact hfails count hreads

/-- What the first receive came to is the answer. -/
theorem fillFrom_of_fails (hfails : ∀ count, (b.fillFrom t s).1 ≠ .ok (.read count)) :
    ∃ r s', t.recv b.freeRun s = (r, s') ∧ (∀ data, r ≠ .ok (.bytes data))
      ∧ b.fillFrom t s = (r.map Arrival.answer, b, s') := by
  obtain ⟨hroom, hnothing⟩ := recv_of_fails hfails
  exact ⟨_, _, rfl, hnothing, fillFrom_of_nothing hroom rfl hnothing⟩

/-! ## Runs -/

/-- **A failed operation leaves the buffer as it was.** -/
theorem perform_of_fails {op : Operation σ} (hfails : b.Fails op) : (b.perform op).2 = b := by
  cases op with
  | append data allowGrow memory =>
      obtain ⟨wanted, cause, happend⟩ := append_of_not_granted hfails
      rw [perform, happend]
  | flush t s =>
      obtain ⟨e, herror⟩ := hfails
      obtain ⟨hsome, s', hoffer⟩ := offer_of_flushTo_error herror
      rw [perform, flushTo_of_offer_error hsome hoffer]
  | fill t s =>
      obtain ⟨r, s', -, -, hfill⟩ := fillFrom_of_fails hfails
      rw [perform, hfill]
  | consume | readInto | clear => exact hfails.elim

/-- What is done in two stretches is done one after the other. -/
theorem performAll_append (before after : List (Operation σ)) (b : RingBuffer) :
    b.performAll (before ++ after)
      = ((b.performAll before).1 ++ ((b.performAll before).2.performAll after).1,
      ((b.performAll before).2.performAll after).2) := by
  induction before generalizing b with
  | nil => rfl
  | cons op before ih => rw [List.cons_append, performAll, ih, performAll, List.cons_append]

/-- A run with a failed attempt in it has one answer more and is the same otherwise. -/
theorem performAll_of_fails {before : List (Operation σ)} {op : Operation σ}
    (hfails : (b.performAll before).2.Fails op) (after : List (Operation σ)) :
    ∃ answers answer rest c, b.performAll (before ++ op :: after) = (answers ++ answer :: rest, c)
      ∧ b.performAll (before ++ after) = (answers ++ rest, c) := by
  refine ⟨(b.performAll before).1, ((b.performAll before).2.perform op).1,
    ((b.performAll before).2.performAll after).1, ((b.performAll before).2.performAll after).2, ?_,
    performAll_append before after b⟩
  rw [performAll_append, performAll, perform_of_fails hfails]

/-- **Operations that fail leave the buffer alone.**  An append is refused exactly where the
    least power of two is no word or memory for it is refused, and takes nothing; a flush
    answers the error of its call, or that there is no memory for the held bytes before anything
    was sent; a fill that reads nothing answers what its receive came to. The buffer is as it
    was each time, and whatever is done afterwards goes as it would have gone without the
    attempt. -/
theorem failures_leave_buffer (hb : b.Arises) :
    (∀ data memory power, IsLeast {p | p.isPowerOfTwo ∧ b.length + data.length ≤ p} power →
      ((b.append data true memory).growth.granted = false
        ↔ b.available < data.length ∧ (maxWord < power ∨ (memory.request power).1 = false)))
    ∧ (∀ data allowGrow memory, (b.append data allowGrow memory).growth.granted = false →
        ∃ wanted cause, b.append data allowGrow memory = ⟨0, b, .refused wanted cause, memory⟩)
    ∧ (∀ {σ : Type} (t : Transport σ) (s : σ) e, (b.flushTo t s).1 = .error e →
        ∃ s', b.offer t s = (.error e, s') ∧ b.flushTo t s = (.error e, b, s'))
    ∧ (∀ {σ : Type} (t : Transport σ) (s s' : σ) e,
      b.isEmpty = false → b.offer t s = (.error e, s') →
        b.flushTo t s = (.error e, b, s'))
    ∧ (∀ {σ : Type} (send : Bytes → σ → Except Error Nat × σ)
      (recv : Nat → σ → Except Error Arrival × σ)
        (request : Nat → σ → Bool × σ) (s s' : σ), b.segments.2 ≠ [] →
        request b.length s = (false, s') →
        b.flushTo (.joining send recv request) s = (.error (.outOfMemory b.length), b, s'))
    ∧ (∀ {σ : Type} (t : Transport σ) (s : σ), (∀ count, (b.fillFrom t s).1 ≠ .ok (.read count)) →
        ∃ r s', t.recv b.freeRun s = (r, s') ∧ (∀ data, r ≠ .ok (.bytes data))
          ∧ b.fillFrom t s = (r.map Arrival.answer, b, s'))
    ∧ ∀ {σ : Type} (before : List (Operation σ)) (op : Operation σ) (after : List (Operation σ)),
        (b.performAll before).2.Fails op →
        ((b.performAll before).2.perform op).2 = (b.performAll before).2
          ∧ ∃ answers answer rest c, b.performAll (before ++ op :: after)
            = (answers ++ answer :: rest, c)
            ∧ b.performAll (before ++ after) = (answers ++ rest, c) := by
  have h := hb.wellFormed
  refine ⟨?_, fun _ _ _ => append_of_not_granted, ?_, fun _ _ _ _ => flushTo_of_offer_error, ?_,
    fun _ _ => fillFrom_of_fails,
    fun _ _ after hfails => ⟨perform_of_fails hfails, performAll_of_fails hfails after⟩⟩
  · intro data memory power hpower
    rw [append_refused_iff, not_affords_iff hpower]
  · intro σ t s e herror
    obtain ⟨hsome, s', hoffer⟩ := offer_of_flushTo_error herror
    exact ⟨s', hoffer, flushTo_of_offer_error hsome hoffer⟩
  · intro σ send recv request s s' hwrapped hrefused
    have hsome : b.isEmpty = false := by
      rw [isEmpty_eq h, List.isEmpty_eq_false_iff, toList]
      intro hnone
      exact hwrapped (List.append_eq_nil_iff.mp hnone).2
    exact flushTo_of_offer_error hsome (offer_joining_refused h hwrapped hrefused)

/-- Three bytes more than fit meet memory that is used up, held bytes at both ends of the
    storage a joined write without memory and a broken peer, and the free room a peer that sent
    nothing; after each of them a retry goes as the first try would have gone. -/
theorem failures_leave_buffer_straddling :
    let peer : Rehearsal := ⟨none, some .connectionReset, [.wouldBlock], ⟨0, 0, 0⟩, []⟩
    let refused : Operation Rehearsal := .append [10, 11, 12] true ⟨0, 0, 0⟩
    let retry : Operation Rehearsal := .append [10, 11, 12] true .plentiful
    Layouts.straddling.Arises
      ∧ (∃ wanted cause, Layouts.straddling.append [10, 11, 12] true ⟨0, 0, 0⟩
          = ⟨0, Layouts.straddling, .refused wanted cause, ⟨0, 0, 0⟩⟩)
      ∧ Layouts.straddling.flushTo Rehearsal.vectored peer = (.error (.os "send" .connectionReset),
        Layouts.straddling,
          { peer with calls := [.sendPair [4, 5, 6, 7] [8, 9]] })
      ∧ Layouts.straddling.flushTo Rehearsal.joining peer
          = (.error (.outOfMemory Layouts.straddling.length), Layouts.straddling, peer)
      ∧ (∃ r s', Rehearsal.vectored.recv Layouts.straddling.freeRun peer = (r, s')
          ∧ (∀ data, r ≠ .ok (.bytes data))
          ∧ Layouts.straddling.fillFrom Rehearsal.vectored peer = (r.map Arrival.answer,
            Layouts.straddling, s'))
      ∧ ∃ answers answer rest c, Layouts.straddling.performAll ([] ++ refused :: [retry])
        = (answers ++ answer :: rest, c)
        ∧ Layouts.straddling.performAll ([] ++ [retry]) = (answers ++ rest, c) := by
  intro peer refused retry
  obtain ⟨-, happend, -, hflush, hjoin, hfill, hrun⟩ :=
    failures_leave_buffer Layouts.straddling_arises
  refine ⟨Layouts.straddling_arises, happend _ _ _ (by decide), hflush _ _ _ _ (by decide) rfl,
    hjoin _ _ _ _ _ (by decide) rfl, hfill _ _ ?_, (hrun [] refused [retry] ?_).2⟩
  · intro count hread
    cases hread
  · show (Layouts.straddling.append [10, 11, 12] true ⟨0, 0, 0⟩).growth.granted = false
    decide

end EventLoop.RingBuffer
