import EventLoop.Echo.Turn
import EventLoop.Proofs.RingBuffer.Transfers

/-! # Moving received bytes to the output

    The pump takes chunks from the front of the input and puts them behind the output
    until one of the two has no more to give or to take (`pump_spec`). A pass finds the
    output full, finds the input drained, or moves a chunk; the induction is on the passes,
    and since every pass but the last moves a byte, there are enough of them. No memory is
    asked for and nothing is logged: the host stays as it is (`pumpWithin_alone`). -/

namespace EventLoop.Echo

variable {C : Type}

/-- Two buffers after some bytes went from the front of the one to the back of the other. -/
structure Moved (count : Nat) (input output input' output' : RingBuffer) : Prop where
  input_wellFormed : input'.WellFormed
  output_wellFormed : output'.WellFormed
  input_capacity : input'.capacity = input.capacity
  output_capacity : output'.capacity = output.capacity
  input_toList : input'.toList = input.toList.drop count
  output_toList : output'.toList = output.toList ++ input.toList.take count

namespace Moved

variable {m n : Nat} {input output input' output' input'' output'' : RingBuffer}

theorem refl (hinput : input.WellFormed) (houtput : output.WellFormed) :
    Moved 0 input output input output :=
  ⟨hinput, houtput, rfl, rfl, rfl, (List.append_nil _).symm⟩

theorem trans (h : Moved m input output input' output')
    (h' : Moved n input' output' input'' output'') :
    Moved (m + n) input output input'' output'' where
  input_wellFormed := h'.input_wellFormed
  output_wellFormed := h'.output_wellFormed
  input_capacity := h'.input_capacity.trans h.input_capacity
  output_capacity := h'.output_capacity.trans h.output_capacity
  input_toList := by rw [h'.input_toList, h.input_toList, List.drop_drop]
  output_toList := by
    rw [h'.output_toList, h.output_toList, h.input_toList, List.append_assoc, ← List.take_add]

/-- What is read into no more room than the output has goes there as a whole. -/
theorem of_read (hinput : input.WellFormed) (houtput : output.WellFormed) {room : Nat}
    {chunk : Bytes} (hroom : room ≤ output.available) (hread : input.read room = (chunk, input')) :
    Moved chunk.length input output input' (output.store chunk) := by
  have hsplit := RingBuffer.toList_of_read hinput hread
  have hfit := Nat.le_trans (RingBuffer.length_le_of_read hread) hroom
  have hbuffer : input' = (input.read room).2 := by rw [hread]
  refine ⟨?_, RingBuffer.store_wellFormed houtput _, ?_, RingBuffer.capacity_store _ _, ?_, ?_⟩
  · rw [hbuffer]
    exact RingBuffer.read_wellFormed hinput room
  · rw [hbuffer, RingBuffer.read_buffer, RingBuffer.capacity_consume]
  · rw [hsplit, List.drop_left]
  · rw [RingBuffer.toList_store houtput, List.take_of_length_le hfit, hsplit, List.take_left]

/-- What still fits to be moved is less by what was moved. -/
theorem rest (h : Moved n input output input' output') (houtput : output.WellFormed)
    (hle : n ≤ min input.toList.length output.available) :
    n + min input'.toList.length output'.available = min input.toList.length output.available := by
  have hlength := congrArg List.length h.input_toList
  have hspace := congrArg List.length h.output_toList
  rw [List.length_drop] at hlength
  rw [List.length_append, List.length_take] at hspace
  have hroom := RingBuffer.available_eq houtput
  have hroom' := RingBuffer.available_eq h.output_wellFormed
  rw [h.output_capacity] at hroom'
  omega

/-- Where all that fits was moved, nothing is left or nothing more fits. -/
theorem used_up (h : Moved n input output input' output') (houtput : output.WellFormed)
    (hcount : n = min input.toList.length output.available) :
    input'.isEmpty = true ∨ output'.isFull = true := by
  have hrest := h.rest houtput (Nat.le_of_eq hcount)
  have hfits := h.output_wellFormed.length_le
  rw [RingBuffer.isEmpty_eq h.input_wellFormed, List.isEmpty_iff_length_eq_zero, RingBuffer.isFull,
    beq_iff_eq]
  have hspace : output'.available = output'.capacity - output'.length := rfl
  omega

end Moved

/-! ## One pass -/

section

variable {passes : Nat} {c : Connection C} {h : Host} {chunk : Bytes} {input : RingBuffer}

/-- Without growth a chunk for which there is room is stored, and the host does not notice. -/
theorem queue_of_fits (c : Connection C) (h : Host) {chunk : Bytes}
    (hfit : chunk.length ≤ c.output.available) :
    c.queue chunk false h = (chunk.length, { c with output := c.output.store chunk }, h) := by
  rw [Connection.queue, RingBuffer.append_of_fits chunk false h.memory hfit]
  rfl

/-- A chunk is no empty one, so it is the output that has no room. -/
theorem full_of_no_room (hroom : min c.output.available chunkSize = 0) :
    c.output.available = 0 := by
  have hsize : chunkSize = 4096 := rfl
  omega

theorem pumpWithin_of_full (hroom : min c.output.available chunkSize = 0) :
    pumpWithin (passes + 1) c h = (c, h) :=
  if_pos hroom

theorem pumpWithin_of_drained (hroom : min c.output.available chunkSize ≠ 0)
    (hread : c.input.read (min c.output.available chunkSize) = ([], input)) :
    pumpWithin (passes + 1) c h = ({ c with input := input }, h) := by
  rw [pumpWithin, if_neg hroom, hread]

/-- A chunk that was read is stored as a whole, and the next pass follows. -/
theorem pumpWithin_of_chunk (hroom : min c.output.available chunkSize ≠ 0)
    (hread : c.input.read (min c.output.available chunkSize) = (chunk, input))
    (hsome : chunk ≠ []) :
    pumpWithin (passes + 1) c h = pumpWithin passes
      { c with input := input, output := c.output.store chunk } h := by
  have hfit : chunk.length ≤ c.output.available :=
    Nat.le_trans (RingBuffer.length_le_of_read hread) (Nat.min_le_left _ _)
  rw [pumpWithin, if_neg hroom, hread]
  cases chunk with
  | nil => exact absurd rfl hsome
  | cons x more => simp only [queue_of_fits { c with input := input } h hfit]

end

/-! ## The passes together -/

/-- A number of passes above the bytes in the input is enough to move what fits. -/
theorem pumpWithin_spec (passes : Nat) (c : Connection C) (h : Host) (hinput : c.input.WellFormed)
    (houtput : c.output.WellFormed) (hpasses : c.input.toList.length < passes) :
    ∃ input output, pumpWithin passes c h = ({ c with input := input, output := output }, h)
      ∧ Moved (min c.input.toList.length c.output.available) c.input c.output input output := by
  induction passes generalizing c with
  | zero => exact absurd hpasses (Nat.not_lt_zero _)
  | succ passes ih =>
      by_cases hroom : min c.output.available chunkSize = 0
      · rw [pumpWithin_of_full hroom, full_of_no_room hroom, Nat.min_zero]
        exact ⟨c.input, c.output, rfl, .refl hinput houtput⟩
      · rcases hread : c.input.read (min c.output.available chunkSize) with ⟨chunk, input⟩
        have hmoved := Moved.of_read hinput houtput (Nat.min_le_left _ _) hread
        by_cases hsome : chunk = []
        · subst hsome
          rw [RingBuffer.store_nil] at hmoved
          rw [pumpWithin_of_drained hroom hread, RingBuffer.toList_of_read_nil hroom hread,
            List.length_nil, Nat.zero_min]
          exact ⟨input, c.output, rfl, hmoved⟩
        · have hpos := List.length_pos_iff.mpr hsome
          have hlength := congrArg List.length (RingBuffer.toList_of_read hinput hread)
          have hroom' := RingBuffer.length_le_of_read hread
          rw [List.length_append] at hlength
          -- the rest of the input goes on with what room the output has left
          obtain ⟨input', output', hpump, hrest⟩ :=
            ih { c with input := input, output := c.output.store chunk } hmoved.input_wellFormed
              hmoved.output_wellFormed (show input.toList.length < passes by omega)
          rw [pumpWithin_of_chunk hroom hread hsome]
          exact ⟨input', output', hpump, hmoved.rest houtput (by omega) ▸ hmoved.trans hrest⟩

/-- Nothing but the buffers changes, and the host has no part in it. -/
theorem pumpWithin_alone (passes : Nat) (c : Connection C) :
    ∃ input output, ∀ h : Host, pumpWithin passes c h
      = ({ c with input := input, output := output }, h) := by
  -- on the passes, none of which looks at the host
  induction passes generalizing c with
  | zero => exact ⟨c.input, c.output, fun _ => rfl⟩
  | succ passes ih =>
      by_cases hroom : min c.output.available chunkSize = 0
      · exact ⟨c.input, c.output, fun _ => pumpWithin_of_full hroom⟩
      · rcases hread : c.input.read (min c.output.available chunkSize) with ⟨chunk, input⟩
        by_cases hsome : chunk = []
        · subst hsome
          exact ⟨input, c.output, fun _ => pumpWithin_of_drained hroom hread⟩
        · obtain ⟨input', output', hpump⟩ :=
            ih { c with input := input, output := c.output.store chunk }
          exact ⟨input', output', fun h => (pumpWithin_of_chunk hroom hread hsome).trans (hpump h)⟩

/-- What the pump does: the one or the other buffer is used up. -/
theorem pump_spec (c : Connection C) (h : Host) (hinput : c.input.WellFormed)
    (houtput : c.output.WellFormed) :
    ∃ input output, pump c h = ({ c with input := input, output := output }, h)
      ∧ Moved (min c.input.toList.length c.output.available) c.input c.output input output := by
  refine pumpWithin_spec _ c h hinput houtput ?_
  rw [RingBuffer.length_toList hinput]
  exact Nat.lt_succ_self _

end EventLoop.Echo
