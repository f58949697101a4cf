import EventLoop.RingBuffer.Transfer

/-! # The layout of ring buffers

    Offsets against storage. A run of offsets stands for a list of bytes
    (`bytesFrom`), and the held bytes are the run from the tail (`toList_eq`).
    The route:

    * all offsets in use stay below twice the capacity, so the remainder by the
      capacity is a single comparison (`position_eq`), and everything about
      positions becomes linear arithmetic;
    * writing is described by what stands under each position afterwards
      (`getD_overwrite`), hence under each offset (`byteAt_store_new`,
      `byteAt_store_old`);
    * `WellFormed` is what every operation relies on and leaves behind. -/

namespace EventLoop

/-! ## Overwriting storage -/

@[simp] theorem size_overwrite (storage : Array UInt8) (start : Nat) (data : Bytes) :
    (overwrite storage start data).size = storage.size := by
  induction data generalizing storage start with
  | nil => rfl
  | cons x rest ih =>
      rw [overwrite, ih, Array.size_setIfInBounds]

/-- What stands under a position after bytes were written from `start` on. -/
theorem getD_overwrite (storage : Array UInt8) (start : Nat) (data : Bytes) (i : Nat) :
    (overwrite storage start data).getD i 0
      = if start ≤ i ∧ i < start + data.length ∧ i < storage.size
        then data.getD (i - start) 0 else storage.getD i 0 := by
  -- on the bytes, which are written one position after the other
  induction data generalizing storage start with
  | nil =>
      rw [if_neg (by simp only [List.length_nil]; omega)]
      rfl
  | cons x rest ih =>
      have hset : (storage.setIfInBounds start x).getD i 0
          = if start = i ∧ i < storage.size then x else storage.getD i 0 := by
        simp only [Array.getD_eq_getD_getElem?, Array.getElem?_setIfInBounds]
        by_cases hi : start = i
        · subst hi
          by_cases hs : start < storage.size <;> simp [hs]
        · simp [hi]
      rw [overwrite, ih, hset, Array.size_setIfInBounds, List.length_cons]
      by_cases hlt : start < i
      · have hsub : i - start = (i - (start + 1)) + 1 := by omega
        rw [hsub, List.getD_cons_succ, if_neg (show ¬ (start = i ∧ i < storage.size) by omega)]
        by_cases hin : i < start + 1 + rest.length ∧ i < storage.size
        · rw [if_pos ⟨by omega, hin⟩, if_pos ⟨by omega, by omega, hin.2⟩]
        · rw [if_neg (by omega), if_neg (by omega)]
      · rw [if_neg (show ¬ (start + 1 ≤ i ∧ i < start + 1 + rest.length
          ∧ i < storage.size) by omega)]
        by_cases hin : start = i ∧ i < storage.size
        · rw [if_pos hin, if_pos ⟨by omega, by omega, hin.2⟩, hin.1, Nat.sub_self]
          rfl
        · rw [if_neg hin, if_neg (by omega)]

namespace RingBuffer

/-! ## What every operation leaves behind -/

/-- The storage has a power of two of bytes, the offsets keep within their
    bounds, and a drained buffer starts at zero. -/
structure WellFormed (b : RingBuffer) : Prop where
  powerOfTwo : b.capacity.isPowerOfTwo
  tail_lt : b.tail < b.capacity
  tail_le_head : b.tail ≤ b.head
  head_le : b.head ≤ b.tail + b.capacity
  drained : b.head = b.tail → b.tail = 0

variable {b : RingBuffer}

theorem WellFormed.capacity_pos (h : b.WellFormed) : 0 < b.capacity :=
  Nat.lt_of_le_of_lt (Nat.zero_le _) h.tail_lt

theorem WellFormed.length_le (h : b.WellFormed) : b.length ≤ b.capacity := by
  have := h.head_le
  show b.head - b.tail ≤ b.capacity
  omega

/-- Below twice the capacity an offset wraps at most once. -/
theorem position_eq {offset : Nat} (h : offset < 2 * b.capacity) :
    b.position offset = if offset < b.capacity then offset else offset - b.capacity := by
  show offset % b.capacity = _
  by_cases hlt : offset < b.capacity
  · rw [if_pos hlt, Nat.mod_eq_of_lt hlt]
  · rw [if_neg hlt, Nat.mod_eq_sub_mod (by omega), Nat.mod_eq_of_lt (by omega)]

/-! ## Bytes under offsets -/

/-- The byte under an offset. -/
def byteAt (b : RingBuffer) (offset : Nat) : UInt8 := b.storage.getD (b.position offset) 0

/-- The bytes under a run of offsets. -/
def bytesFrom (b : RingBuffer) (offset count : Nat) : Bytes :=
  (List.range count).map fun i => b.byteAt (offset + i)

@[simp] theorem length_bytesFrom (b : RingBuffer) (offset count : Nat) :
    (b.bytesFrom offset count).length = count := by
  rw [bytesFrom, List.length_map, List.length_range]

/-- A run can be read in two parts. -/
theorem bytesFrom_add (b : RingBuffer) (offset m n : Nat) :
    b.bytesFrom offset (m + n) = b.bytesFrom offset m ++ b.bytesFrom (offset + m) n := by
  rw [bytesFrom, List.range_add, List.map_append, List.map_map]
  simp only [bytesFrom, Function.comp_def, Nat.add_assoc]

/-- Dropping bytes in front is reading from a later offset. -/
theorem drop_bytesFrom (b : RingBuffer) (offset m n : Nat) (h : m ≤ n) :
    (b.bytesFrom offset n).drop m = b.bytesFrom (offset + m) (n - m) := by
  obtain ⟨k, rfl⟩ := Nat.exists_eq_add_of_le h
  rw [bytesFrom_add, List.drop_left' (by simp), Nat.add_sub_cancel_left]

/-- Runs agree when the bytes under their offsets do. -/
theorem bytesFrom_congr {b c : RingBuffer} {offset offset' count : Nat}
    (h : ∀ i < count, b.byteAt (offset + i) = c.byteAt (offset' + i)) :
    b.bytesFrom offset count = c.bytesFrom offset' count := by
  refine List.map_congr_left ?_
  intro i hi
  exact h i (List.mem_range.mp hi)

/-- Offsets that differ by the capacity mean the same byte. -/
theorem byteAt_sub_capacity (b : RingBuffer) (offset : Nat) (h : b.capacity ≤ offset) :
    b.byteAt (offset - b.capacity) = b.byteAt offset := by
  show b.storage.getD ((offset - b.capacity) % b.capacity) 0 = b.storage.getD
    (offset % b.capacity) 0
  rw [← Nat.mod_eq_sub_mod h]

/-- A slice of the storage is the run of offsets that equal its positions. -/
theorem slice_eq (b : RingBuffer) (first count : Nat) (h : first + count ≤ b.capacity) :
    b.slice first (first + count) = b.bytesFrom first count := by
  have hsize : first + count ≤ b.storage.size := h
  refine List.ext_getElem? ?_
  intro i
  rw [slice, Array.getElem?_toList, Array.getElem?_extract, Nat.min_eq_left hsize,
    Nat.add_sub_cancel_left]
  by_cases hi : i < count
  · have hpos : b.position (first + i) = first + i := Nat.mod_eq_of_lt (by omega)
    rw [if_pos hi, bytesFrom, List.getElem?_map, List.getElem?_range hi, Option.map_some, byteAt,
      hpos, Array.getD_eq_getD_getElem?, Array.getElem?_eq_getElem (by omega), Option.getD_some]
  · rw [if_neg hi, List.getElem?_eq_none (by rw [length_bytesFrom]; omega)]

/-! ## The held bytes -/

/-- The held bytes are the run from the tail to the head. -/
theorem toList_eq (h : b.WellFormed) : b.toList = b.bytesFrom b.tail b.length := by
  have htail := h.tail_lt
  have hlen := h.length_le
  have hpos : b.position b.tail = b.tail := Nat.mod_eq_of_lt htail
  rw [toList, segments, hpos]
  by_cases hzero : b.length = 0
  · rw [if_pos hzero, hzero]
    rfl
  · rw [if_neg hzero]
    by_cases hfit : b.tail + b.length ≤ b.capacity
    · rw [if_pos hfit]
      show b.slice b.tail (b.tail + b.length) ++ [] = _
      rw [slice_eq b _ _ hfit, List.append_nil]
    · -- the run passes the end of the storage: its second part lies at the front
      rw [if_neg hfit]
      have hfirst : b.slice b.tail b.capacity = b.bytesFrom b.tail (b.capacity - b.tail) := by
        rw [← slice_eq b _ _ (by omega), Nat.add_sub_cancel' (by omega)]
      have hsecond : b.slice 0 (b.length - (b.capacity - b.tail))
          = b.bytesFrom b.capacity (b.length - (b.capacity - b.tail)) := by
        have h0 := slice_eq b 0 (b.length - (b.capacity - b.tail)) (by omega)
        rw [Nat.zero_add] at h0
        rw [h0]
        refine bytesFrom_congr ?_
        intro i _
        rw [← byteAt_sub_capacity b (b.capacity + i) (by omega), Nat.add_sub_cancel_left,
          Nat.zero_add]
      have hjoin : b.bytesFrom b.tail ((b.capacity - b.tail) + (b.length - (b.capacity - b.tail)))
          = b.bytesFrom b.tail (b.capacity - b.tail)
            ++ b.bytesFrom b.capacity (b.length - (b.capacity - b.tail)) := by
        rw [bytesFrom_add, Nat.add_sub_cancel' (Nat.le_of_lt htail)]
      show b.slice b.tail b.capacity ++ b.slice 0 (b.length - (b.capacity - b.tail)) = _
      rw [hfirst, hsecond, ← hjoin, Nat.add_sub_cancel' (by omega)]

/-- The offsets count the held bytes. -/
theorem length_toList (h : b.WellFormed) : b.toList.length = b.length := by
  rw [toList_eq h, length_bytesFrom]

/-- Available is what the capacity leaves beside the held bytes. -/
theorem available_eq (h : b.WellFormed) : b.available = b.capacity - b.toList.length := by
  rw [length_toList h]
  rfl

/-- Equal offsets mean that nothing is held. -/
theorem isEmpty_eq (h : b.WellFormed) : b.isEmpty = b.toList.isEmpty := by
  have := h.tail_le_head
  have hlen := length_toList h
  rw [Bool.eq_iff_iff, List.isEmpty_iff, ← List.length_eq_zero_iff, hlen]
  show (b.head == b.tail) = true ↔ b.head - b.tail = 0
  rw [beq_iff_eq]
  omega

/-- A buffer is full when it holds as much as its capacity. -/
theorem isFull_eq (h : b.WellFormed) : b.isFull = (b.toList.length == b.capacity) := by
  rw [length_toList h]
  rfl

end RingBuffer

end EventLoop
