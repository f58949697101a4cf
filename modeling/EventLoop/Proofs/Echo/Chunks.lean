import EventLoop.Proofs.Echo.Pump
import EventLoop.Proofs.RingBuffer.Flushing

/-! # The chunks of the pump

    The pump goes round until the output has no room or the input holds nothing, without a
    bound on its passes, and each chunk goes through one array that is used again and again.
    This file runs the loop that way and ties it to `pump`:

    * `pass` — one pass: bytes are read into the front of the array and staged from there.
      The parts of the array that are used lie within it, or there is no answer;
    * `Pumps` — a loop that comes to its end, with the calls that staged bytes;
    * `pass_of_full`, `pass_of_drained`, `pass_of_chunk` — the three ways of a pass. What the
      array held before plays no part in them;
    * `exists_pumps` — every loop comes to its end, each of its calls takes all that it is
      given, and together the calls are given the front of the input.

    The answer to a staging call is ignored by the loop. That it is the whole chunk rests on
    the room that was looked up before the chunk was read (`queue_of_fits`). -/

namespace EventLoop

namespace Echo

variable {C : Type}

/-- A call that stages bytes: what it was given, and how many of them it took. -/
structure Staging where
  data : Bytes
  taken : Nat
  deriving DecidableEq, Repr

/-- How a pass ends. -/
inductive Pass (C : Type) where
  /-- The loop is left. -/
  | stopped (c : Connection C)
  /-- A chunk was staged from the array, and another pass follows. -/
  | staged (call : Staging) (array : Bytes) (c : Connection C) (h : Host)

/-- One pass through the loop. No more is read than the output has room for. -/
def pass (array : Bytes) (c : Connection C) (h : Host) : Option (Pass C) := do
  let room := min c.output.available array.length
  if room = 0 then return .stopped c
  let (count, front, input) := c.input.readInto (← Checked.slice array 0 room)
  let array := front ++ array.drop room
  if count = 0 then return .stopped { c with input := input }
  let data ← Checked.slice array 0 count
  let (taken, c, h) := { c with input := input }.queue data false h
  return .staged ⟨data, taken⟩ array c h

/-- A loop that comes to its end: the calls that it staged bytes with, and how it leaves the
    connection and the host. -/
inductive Pumps : Bytes → Connection C → Host → List Staging → Connection C × Host → Prop where
  | stopped {array : Bytes} {c c' : Connection C} {h : Host}
      (hpass : pass array c h = some (.stopped c')) :
      Pumps array c h [] (c', h)
  | staged {array array' : Bytes} {c c' : Connection C} {h h' : Host} {call : Staging}
      {calls : List Staging}
      {r : Connection C × Host} (hpass : pass array c h = some (.staged call array' c' h'))
      (hrest : Pumps array' c' h' calls r) : Pumps array c h (call :: calls) r

variable {array chunk : Bytes} {c : Connection C} {h : Host} {input : RingBuffer}
  {calls calls' : List Staging} {r r' : Connection C × Host}

/-- A loop can go one way only. -/
theorem Pumps.unique (hone : Pumps array c h calls r) (hother : Pumps array c h calls' r') :
    calls' = calls ∧ r' = r := by
  -- on the one loop; a pass stops or stages in both
  induction hone generalizing calls' r' with
  | stopped hpass =>
      cases hother with
      | stopped hpass' =>
          cases hpass.symm.trans hpass'
          exact ⟨rfl, rfl⟩
      | staged hpass' => cases hpass.symm.trans hpass'
  | staged hpass _ ih =>
      cases hother with
      | stopped hpass' => cases hpass.symm.trans hpass'
      | staged hpass' hrest =>
          cases hpass.symm.trans hpass'
          obtain ⟨rfl, rfl⟩ := ih hrest
          exact ⟨rfl, rfl⟩

/-! ## The ways of a pass -/

theorem pass_of_full (hroom : min c.output.available array.length = 0) :
    pass array c h = some (.stopped c) :=
  if_pos hroom

/-- What is read into a part of the array stands at its front; what stands behind it is what
    stood there before. -/
theorem readInto_array {b : RingBuffer} {room : Nat} (hle : room ≤ array.length)
    (hread : b.read room = (chunk, input)) :
    ∃ destination, Checked.slice array 0 room = some destination
      ∧ b.readInto destination = (chunk.length, chunk ++ destination.drop chunk.length, input)
      ∧ (chunk ++ destination.drop chunk.length) ++ array.drop room = chunk ++ array.drop
        chunk.length := by
  have hlength : (array.take room).length = room := by rw [List.length_take, Nat.min_eq_left hle]
  have hfit : chunk.length ≤ (array.take room).length :=
    hlength.symm ▸ RingBuffer.length_le_of_read hread
  refine ⟨array.take room, Checked.slice_eq (Nat.zero_le _) hle, ?_, ?_⟩
  · rw [RingBuffer.readInto, hlength, hread]
  · rw [List.append_assoc, ← List.drop_append_of_le_length hfit, List.take_append_drop]

section

variable (hroom : min c.output.available array.length ≠ 0)
  (hread : c.input.read (min c.output.available array.length) = (chunk, input))

include hroom hread

/-- Nothing was read. -/
theorem pass_of_drained (hnone : chunk = []) :
    pass array c h = some (.stopped { c with input := input }) := by
  obtain ⟨destination, hslice, hinto, -⟩ := readInto_array (Nat.min_le_right _ _) hread
  subst hnone
  rw [pass, if_neg hroom, hslice]
  simp only [Option.bind_eq_bind, Option.bind_some, hinto]
  rfl

/-- A chunk was read, and the whole of it is staged. -/
theorem pass_of_chunk (hsome : chunk ≠ []) :
    pass array c h = some (.staged ⟨chunk, chunk.length⟩ (chunk ++ array.drop chunk.length)
      { c with input := input, output := c.output.store chunk } h) := by
  obtain ⟨destination, hslice, hinto, harray⟩ := readInto_array (Nat.min_le_right _ _) hread
  have hcount : chunk.length ≠ 0 := fun hzero => hsome (List.length_eq_zero_iff.mp hzero)
  have hfit : chunk.length ≤ c.output.available :=
    Nat.le_trans (RingBuffer.length_le_of_read hread) (Nat.min_le_left _ _)
  have hdata : Checked.slice (chunk ++ array.drop chunk.length) 0 chunk.length = some chunk := by
    rw [Checked.slice_eq (Nat.zero_le _) (by rw [List.length_append]; omega), List.take_left' rfl,
      List.drop_zero]
  rw [pass, if_neg hroom, hslice]
  simp only [Option.bind_eq_bind, Option.bind_some, hinto, harray, if_neg hcount, hdata,
    queue_of_fits { c with input := input } h hfit]
  rfl

end

/-! ## Whole loops -/

/-- Every loop comes to its end with what the pump makes of the connection. Every pass but the
    last takes a byte at least off the input. -/
theorem exists_pumps (passes : Nat) (hinput : c.input.WellFormed) (houtput : c.output.WellFormed)
    (harray : array.length = chunkSize) (hpasses : c.input.toList.length < passes) :
    ∃ calls, Pumps array c h calls (pumpWithin passes c h)
      ∧ (∀ call ∈ calls, call.data ≠ [] ∧ call.taken = call.data.length)
      ∧ (calls.map Staging.data).flatten = c.input.toList.take
        (min c.input.toList.length c.output.available) := by
  induction passes generalizing array c with
  | zero => exact absurd hpasses (Nat.not_lt_zero _)
  | succ passes ih =>
      have hnone : ∀ call ∈ ([] : List Staging), call.data ≠ [] ∧ call.taken = call.data.length :=
        fun _ h => absurd h List.not_mem_nil
      by_cases hroom : min c.output.available chunkSize = 0
      · rw [pumpWithin_of_full hroom, full_of_no_room hroom, Nat.min_zero]
        exact ⟨[], .stopped (pass_of_full (harray ▸ hroom)), hnone, rfl⟩
      · rcases hread : c.input.read (min c.output.available chunkSize) with ⟨chunk, input⟩
        by_cases hsome : chunk = []
        · rw [pumpWithin_of_drained hroom (hsome ▸ hread),
            RingBuffer.toList_of_read_nil hroom (hsome ▸ hread)]
          exact ⟨[], .stopped (pass_of_drained (harray ▸ hroom) (harray ▸ hread) hsome), hnone, rfl⟩
        · have hmoved := Moved.of_read hinput houtput (Nat.min_le_left _ _) hread
          have hpos := List.length_pos_iff.mpr hsome
          have hsplit := RingBuffer.toList_of_read hinput hread
          have hlength := congrArg List.length hsplit
          have hroom' := RingBuffer.length_le_of_read hread
          rw [List.length_append] at hlength
          -- of the array only its length is handed on to the next pass
          have harray' : (chunk ++ array.drop chunk.length).length = chunkSize := by
            rw [List.length_append, List.length_drop]
            omega
          obtain ⟨calls, hpumps, hwhole, hgiven⟩ :=
            @ih _ { c with input := input, output := c.output.store chunk } hmoved.input_wellFormed
              hmoved.output_wellFormed harray' (show input.toList.length < passes by omega)
          rw [pumpWithin_of_chunk hroom hread hsome]
          refine ⟨⟨chunk, chunk.length⟩ :: calls,
            .staged (pass_of_chunk (harray ▸ hroom) (harray ▸ hread) hsome) hpumps,
            List.forall_mem_cons.mpr ⟨⟨hsome, rfl⟩, hwhole⟩, ?_⟩
          rw [← hmoved.rest houtput (by omega), hsplit, List.take_length_add_append, List.map_cons,
            List.flatten_cons, hgiven]

/-- **The pump moves as much as fits and loses nothing.**  Whatever the array holds at first,
    and however the two buffers lie in their storages, its loop comes to its end, in one way
    only. As many bytes as the input holds and the output has room for go from the front of the
    one to the back of the other, in order, so that nothing is left or nothing more fits; the
    capacities and the rest of the connection stay, and so does the host. Every call that
    stages bytes takes all that it is given. -/
theorem pump_moves_what_fits (c : Connection C) (h : Host) (hinput : c.input.WellFormed)
    (houtput : c.output.WellFormed) (harray : array.length = chunkSize) :
    ∃ calls input output,
      (∀ calls' r, Pumps array c h calls' r ↔ calls' = calls ∧ r = pump c h)
      ∧ pump c h = ({ c with input := input, output := output }, h)
      ∧ Moved (min c.input.length c.output.available) c.input c.output input output
      ∧ (input.isEmpty = true ∨ output.isFull = true)
      ∧ (calls.map Staging.data).flatten = c.input.toList.take
        (min c.input.length c.output.available)
      ∧ ∀ call ∈ calls, call.data ≠ [] ∧ call.taken = call.data.length := by
  have hlength := RingBuffer.length_toList hinput
  obtain ⟨input, output, hpump, hmoved⟩ := pump_spec c h hinput houtput
  obtain ⟨calls, hpumps, hwhole, hgiven⟩ :=
    exists_pumps (h := h) (c.input.length + 1) hinput houtput harray (by omega)
  have hended := hmoved.used_up houtput rfl
  rw [hlength] at hmoved hgiven
  refine ⟨calls, input, output, fun calls' r => ⟨fun hother => ?_, ?_⟩, hpump, hmoved, hended,
    hgiven, hwhole⟩
  · exact hpumps.unique hother
  · rintro ⟨rfl, rfl⟩
    exact hpumps

end Echo

/-! ## Two layouts that wrap -/

namespace Layouts

/-- One byte is held, with room for a byte behind it and for two at the front of the storage. -/
def narrow : RingBuffer := (((RingBuffer.blank 4).store [0, 1, 2]).consume 2).2

theorem narrow_wellFormed : narrow.WellFormed :=
  RingBuffer.consume_wellFormed
    (RingBuffer.store_wellFormed (RingBuffer.blank_wellFormed ⟨2, rfl⟩) _) 2

/-- The data of the input wraps, and so does the room of the output. -/
def connection : Connection Unit :=
  { Severed.connection with input := straddling, output := narrow }

end Layouts

/-- Three of six bytes fit, and go through an array that was used before. -/
theorem Echo.pump_moves_what_fits_straddling :
    let c := Layouts.connection
    let array := List.replicate chunkSize (255 : UInt8)
    c.input.WellFormed ∧ c.output.WellFormed ∧ array.length = chunkSize
      ∧ c.input.segments = ([4, 5, 6, 7], [8, 9]) ∧ c.output.toList = [2]
      ∧ ∃ calls input output,
        (∀ calls' r, Pumps array c Layouts.host calls' r ↔ calls' = calls ∧ r = pump c Layouts.host)
        ∧ pump c Layouts.host = ({ c with input := input, output := output }, Layouts.host)
        ∧ input.toList = [7, 8, 9] ∧ input.capacity = 8 ∧ output.toList = [2, 4, 5, 6]
        ∧ output.capacity = 4
        ∧ (calls.map Staging.data).flatten = [4, 5, 6]
        ∧ ∀ call ∈ calls, call.data ≠ [] ∧ call.taken = call.data.length := by
  intro c array
  have hinput : c.input.WellFormed := Layouts.straddling_arises.wellFormed
  have houtput : c.output.WellFormed := Layouts.narrow_wellFormed
  have harray : array.length = chunkSize := List.length_replicate
  have hcount : min c.input.length c.output.available = 3 := by decide
  have hheld : c.input.toList = [4, 5, 6, 7, 8, 9] := by decide
  have hstaged : c.output.toList = [2] := by decide
  obtain ⟨calls, input, output, hloop, hpump, hmoved, -, hgiven, hwhole⟩ :=
    pump_moves_what_fits c Layouts.host hinput houtput harray
  rw [hcount] at hmoved hgiven
  refine ⟨hinput, houtput, harray, by decide, hstaged, calls, input, output, hloop, hpump, ?_,
    hmoved.input_capacity, ?_, hmoved.output_capacity, ?_, hwhole⟩
  · rw [hmoved.input_toList, hheld]
    rfl
  · rw [hmoved.output_toList, hstaged, hheld]
    rfl
  · rw [hgiven, hheld]
    rfl

end EventLoop
