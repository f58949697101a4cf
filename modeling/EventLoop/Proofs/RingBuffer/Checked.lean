import EventLoop.Proofs.RingBuffer.Queue

/-! # Nothing leaves its range

    The operations on ring buffers rely on much: that no difference goes below
    zero and no sum beyond a machine word, that slices end within what they are
    taken from, that copies have the length of their target, and that bytes are
    written where no held byte lies. Here they are done once more by words and
    slices that check all of this and have no answer where it fails.

    * Each checked operation on a well-formed buffer has the answer of the plain
      one (`length_eq`, `store_eq`, …, `perform_eq`). The offsets of such a buffer
      stay below twice its capacity, which is a word.
    * Hence no operation of a run leaves its range (`performAll_checked`). -/

namespace EventLoop

open RingBuffer

variable {σ : Type}

/-- Every power of two passes the test that the storage is created under. -/
theorem isPowerOfTwo_complete {n : Nat} (h : n.isPowerOfTwo) : isPowerOfTwo n = true := by
  obtain ⟨k, rfl⟩ := h
  rw [isPowerOfTwo, Nat.log2_two_pow, Nat.one_shiftLeft]
  simp

/-! ## Words and slices -/

namespace Checked

def add (m n : Nat) : Option Nat := if m + n ≤ maxWord then some (m + n) else none

def sub (m n : Nat) : Option Nat := if n ≤ m then some (m - n) else none

/-- The elements of a list from one position up to another. -/
def slice (data : Bytes) (first last : Nat) : Option Bytes :=
  if first ≤ last ∧ last ≤ data.length then some ((data.take last).drop first) else none

/-- Copy over a range of a list; the source has to be as long as the range. -/
def copy (target : Bytes) (first last : Nat) (source : Bytes) : Option Bytes :=
  if first ≤ last ∧ last ≤ target.length ∧ source.length = last - first then
    some (target.take first ++ source ++ target.drop last)
  else none

theorem add_eq {m n : Nat} (h : m + n ≤ maxWord) : add m n = some (m + n) := if_pos h

theorem sub_eq {m n : Nat} (h : n ≤ m) : sub m n = some (m - n) := if_pos h

/-- A slice within bounds is taken. -/
theorem slice_eq {data : Bytes} {first last : Nat} (hle : first ≤ last)
    (hlast : last ≤ data.length) :
    slice data first last = some ((data.take last).drop first) := if_pos ⟨hle, hlast⟩

/-- A copy of the length of its target range is made. -/
theorem copy_eq {target source : Bytes} {first last : Nat} (hle : first ≤ last)
    (hlast : last ≤ target.length) (hlength : source.length = last - first) :
    copy target first last source = some (target.take first ++ source ++ target.drop last) :=
  if_pos ⟨hle, hlast, hlength⟩

/-! ## The operations -/

def length (b : RingBuffer) : Option Nat := sub b.head b.tail

def available (b : RingBuffer) : Option Nat := do sub b.capacity (← length b)

def isFull (b : RingBuffer) : Option Bool := do return (← length b) == b.capacity

/-- The position of an offset by a mask. -/
def position (b : RingBuffer) (offset : Nat) : Option Nat := do
  return offset &&& (← sub b.capacity 1)

/-- The stored bytes from one position up to another. -/
def stored (b : RingBuffer) (first last : Nat) : Option Bytes :=
  if first ≤ last ∧ last ≤ b.capacity then some (b.slice first last) else none

def segments (b : RingBuffer) : Option (Bytes × Bytes) := do
  let len ← length b
  if len = 0 then return ([], [])
  let start ← position b b.tail
  if (← add start len) ≤ b.capacity then
    return (← stored b start (← add start len), [])
  else
    let first ← sub b.capacity start
    return (← stored b start b.capacity, ← stored b 0 (← sub len first))

/-- No held byte lies in a range of the storage. -/
def isFree (b : RingBuffer) (first last : Nat) : Bool :=
  (List.range b.length).all fun i =>
    decide (b.position (b.tail + i) < first ∨ last ≤ b.position (b.tail + i))

def overwritten (b : RingBuffer) (start : Nat) (data : Bytes) : RingBuffer :=
  { b with storage := overwrite b.storage start data }

/-- Write into a range of the storage in which no held byte lies. -/
def write (b : RingBuffer) (first last : Nat) (data : Bytes) : Option RingBuffer :=
  if first ≤ last ∧ last ≤ b.capacity ∧ data.length = last - first ∧ isFree b first last = true then
    some (overwritten b first data)
  else none

/-- Store as much of the data as fits; the answer is how much that is. -/
def store (b : RingBuffer) (data : Bytes) : Option (Nat × RingBuffer) := do
  let count := min data.length (← available b)
  let start ← position b b.head
  let first := min count (← sub b.capacity start)
  let c ← write b start (← add start first) (← slice data 0 first)
  let c ← write c 0 (← sub count first) (← slice data first count)
  return (count, { c with head := ← add b.head count })

def grow (b : RingBuffer) (wanted : Nat) (memory : Allocator) :
    Option (Except Error RingBuffer × Allocator) :=
  match nextPowerOfTwo? wanted with
  | none => some (.error (.outOfMemory wanted), memory)
  | some size =>
    match memory.request size with
    | (true, memory) => do
      let len ← length b
      let (first, second) ← segments b
      let c ← write (blank size) 0 first.length first
      let c ← write c first.length len second
      return (.ok ⟨c.storage, len, 0⟩, memory)
    | (false, memory) => some (.error (.outOfMemory size), memory)

def append (b : RingBuffer) (data : Bytes) (allowGrow : Bool) (memory : Allocator) :
    Option Appended := do
  if data.isEmpty then return ⟨0, b, .unchanged, memory⟩
  if (← available b) < data.length && allowGrow then
    let wanted := min ((← length b) + data.length) maxWord
    match ← grow b wanted memory with
    | (.ok larger, memory) =>
      let (count, c) ← store larger data
      return ⟨count, c, .grown b.capacity larger.capacity, memory⟩
    | (.error cause, memory) => return ⟨0, b, .refused wanted cause, memory⟩
  else
    let (count, c) ← store b data
    return ⟨count, c, .unchanged, memory⟩

def normalize (b : RingBuffer) : Option RingBuffer :=
  if b.head = b.tail then some { b with head := 0, tail := 0 }
  else if b.capacity ≤ b.tail then do
    return { b with head := ← sub b.head b.capacity, tail := ← sub b.tail b.capacity }
  else some b

def consume (b : RingBuffer) (count : Nat) : Option (Nat × RingBuffer) := do
  let count := min count (← length b)
  return (count, ← normalize { b with tail := ← add b.tail count })

def readInto (b : RingBuffer) (destination : Bytes) : Option (Nat × Bytes × RingBuffer) := do
  let (a, c) ← segments b
  let fromA := min a.length destination.length
  let target ← copy destination 0 fromA (← slice a 0 fromA)
  let fromC := min c.length (← sub destination.length fromA)
  let target ← copy target fromA (← add fromA fromC) (← slice c 0 fromC)
  let (count, b) ← consume b (← add fromA fromC)
  return (count, target, b)

/-- A transport that takes more than it was offered has no answer either. -/
def flushTo (t : Transport σ) (b : RingBuffer) (s : σ) :
    Option (Except Error Nat × RingBuffer × σ) := do
  if b.isEmpty then return (.ok 0, b, s)
  let len ← length b
  let (first, second) ← segments b
  match (if second.isEmpty then t.send first s else t.sendPair first second s) with
  | (.ok sent, s) =>
    if sent ≤ len then
      let (count, b) ← consume b sent
      return (.ok count, b, s)
    else none
  | (.error e, s) => return (.error e, b, s)

def fillRuns (t : Transport σ) : Nat → Nat → RingBuffer → σ →
    Option (Except Error Fill × RingBuffer × σ)
  | 0, total, b, s => some (.ok (.read total), b, s)
  | runs + 1, total, b, s => do
    let free ← available b
    if free = 0 then return (.ok (.read total), b, s)
    let start ← position b b.head
    let span := min free (← sub b.capacity start)
    let stop ← add start span
    -- all of the run is the transport's to write on
    if start ≤ stop ∧ stop ≤ b.capacity ∧ isFree b start stop = true then
      match t.recv span s with
      | (.ok (.bytes data), s) =>
        let c ← write b start (← add start data.length) data
        let c := { c with head := ← add b.head data.length }
        let total ← add total data.length
        if data.length < span then return (.ok (.read total), c, s)
        fillRuns t runs total c s
      | (.ok .wouldBlock, s) => return (.ok (if total = 0 then .wouldBlock else .read total), b, s)
      | (.ok .closed, s) => return (.ok (if total = 0 then .closed else .read total), b, s)
      | (.error e, s) => return (if total = 0 then .error e else .ok (.read total), b, s)
    else none

/-- Do an operation. -/
def perform (b : RingBuffer) : Operation σ → Option (Answer σ × RingBuffer)
  | .append data allowGrow memory => do
    let r ← append b data allowGrow memory
    return (.count r.count, r.buffer)
  | .consume count => do
    let (n, c) ← consume b count
    return (.count n, c)
  | .readInto destination => do
    let (n, target, c) ← readInto b destination
    return (.copied n target, c)
  | .clear => some (.done, b.clear)
  | .flush t s => do
    let (r, c, s) ← flushTo t b s
    return (.flushed r s, c)
  | .fill t s => do
    let (r, c, s) ← fillRuns t 2 0 b s
    return (.filled r s, c)

/-- Do operations in order. -/
def performAll (b : RingBuffer) : List (Operation σ) → Option (List (Answer σ) × RingBuffer)
  | [] => some ([], b)
  | op :: ops => do
    let (a, c) ← perform b op
    let (as, d) ← performAll c ops
    return (a :: as, d)


/-! ## They have the answers of the plain operations -/

section

variable {b : RingBuffer}

theorem length_eq (h : b.WellFormed) : length b = some b.length := sub_eq h.tail_le_head

theorem available_eq (h : b.WellFormed) : available b = some b.available := by
  rw [available, length_eq h]
  exact sub_eq h.length_le

theorem isFull_eq (h : b.WellFormed) : isFull b = some b.isFull := by
  rw [isFull, length_eq h]
  rfl

/-- By a power of two, the remainder is what a mask leaves. -/
theorem position_eq (h : b.WellFormed) (offset : Nat) :
    position b offset = some (b.position offset) := by
  have hpos := h.capacity_pos
  obtain ⟨k, hk⟩ := h.powerOfTwo
  rw [position, sub_eq (show 1 ≤ b.capacity from hpos)]
  show some (offset &&& (b.capacity - 1)) = some (offset % b.capacity)
  rw [hk, Nat.and_two_pow_sub_one_eq_mod]

/-- Offsets and sums of two sizes are words. -/
theorem le_maxWord {n size : Nat} (hsize : size ≤ maxObject) (hn : n ≤ 2 * size) : n ≤ maxWord := by
  have : maxObject = maxWord / 2 := rfl
  omega

/-- The slices for the held bytes are within the storage. -/
theorem segments_eq (h : b.WellFormed) (hsize : b.capacity ≤ maxObject) :
    segments b = some b.segments := by
  have hlen := h.length_le
  have htail : b.position b.tail = b.tail := Nat.mod_eq_of_lt h.tail_lt
  have hlt := h.tail_lt
  rw [segments, length_eq h, RingBuffer.segments]
  by_cases hzero : b.length = 0
  · simp [hzero]
  · have hadd : add b.tail b.length = some (b.tail + b.length) :=
      add_eq (le_maxWord hsize (by omega))
    simp only [Option.bind_eq_bind, Option.bind_some, if_neg hzero, position_eq h, htail, hadd]
    by_cases hfit : b.tail + b.length ≤ b.capacity
    · simp [hfit, stored]
    · have hfirst : sub b.capacity b.tail = some (b.capacity - b.tail) := sub_eq (by omega)
      have hrest : sub b.length (b.capacity - b.tail) = some (b.length - (b.capacity - b.tail)) :=
        sub_eq (by omega)
      have hslice : b.length - (b.capacity - b.tail) ≤ b.capacity := by omega
      simp [hfit, hfirst, hrest, stored, hslice, Nat.le_of_lt hlt]

/-! ### Writing where nothing is held -/

/-- A range is free when no held byte has its position there. -/
theorem isFree_iff {first last : Nat} : isFree b first last = true
    ↔ ∀ i < b.length, b.position (b.tail + i) < first ∨ last ≤ b.position (b.tail + i) := by
  simp [isFree]

/-- A write into free positions, of the length of its range, is made. -/
theorem write_eq {first last : Nat} {data : Bytes} (hle : first ≤ last) (hlast : last ≤ b.capacity)
    (hlength : data.length = last - first) (hfree : isFree b first last = true) :
    write b first last data = some (overwritten b first data) := if_pos ⟨hle, hlast, hlength, hfree⟩

@[simp] theorem capacity_overwritten (b : RingBuffer) (start : Nat) (data : Bytes) :
    (overwritten b start data).capacity = b.capacity := size_overwrite _ _ _

/-- What is free does not depend on the bytes in the storage. -/
@[simp] theorem isFree_overwritten (b : RingBuffer) (first last start : Nat) (data : Bytes) :
    isFree (overwritten b start data) first last = isFree b first last := by
  rw [Bool.eq_iff_iff, isFree_iff, isFree_iff]
  simp only [RingBuffer.position, capacity_overwritten]
  rfl

/-- Held bytes lie neither in the free run behind the head nor in what is left of
    the free space at the front of the storage. -/
theorem held_outside (h : b.WellFormed) {i : Nat} (hi : i < b.length) :
    (b.position (b.tail + i) < b.position b.head
        ∨ b.position b.head + b.available ≤ b.position (b.tail + i))
      ∧ b.position b.head + b.available ≤ b.position (b.tail + i) + b.capacity := by
  have htail := h.tail_lt
  have hle := h.tail_le_head
  have hhead := h.head_le
  have hroom : b.available = b.capacity - (b.head - b.tail) := rfl
  have hlength : b.length = b.head - b.tail := rfl
  have hstart : b.position b.head = if b.head < b.capacity then b.head else b.head - b.capacity :=
    RingBuffer.position_eq (by omega)
  have hheld : b.position (b.tail + i)
      = if b.tail + i < b.capacity then b.tail + i else b.tail + i - b.capacity :=
    RingBuffer.position_eq (by omega)
  split at hstart <;> split at hheld <;> omega

/-- The positions behind the head are free, for as many bytes as there is room for. -/
theorem isFree_behind (h : b.WellFormed) {count : Nat} (hcount : count ≤ b.available) :
    isFree b (b.position b.head) (b.position b.head + count) = true := by
  rw [isFree_iff]
  intro i hi
  have := (held_outside h hi).1
  omega

theorem isFree_front (h : b.WellFormed) {count : Nat} (hcount : count ≤ b.available) :
    isFree b 0 (count - min count (b.capacity - b.position b.head)) = true := by
  rw [isFree_iff]
  intro i hi
  have := (held_outside h hi).2
  omega

/-- Storing never writes over a held byte, and all its sums fit. -/
theorem store_eq (h : b.WellFormed) (hsize : b.capacity ≤ maxObject) (data : Bytes) :
    store b data = some (min data.length b.available, b.store data) := by
  have hstart : b.position b.head < b.capacity := Nat.mod_lt _ h.capacity_pos
  have hcount : min data.length b.available ≤ data.length := Nat.min_le_left _ _
  have hroom : min data.length b.available ≤ b.available := Nat.min_le_right _ _
  have hhead : b.head + b.available ≤ 2 * b.capacity := by
    have := h.tail_lt
    have := h.tail_le_head
    have := h.head_le
    show b.head + (b.capacity - (b.head - b.tail)) ≤ 2 * b.capacity
    omega
  rw [store, available_eq h, RingBuffer.store]
  simp only [Option.bind_eq_bind, Option.bind_some, position_eq h, sub_eq (Nat.le_of_lt hstart)]
  have hfront := isFree_front h hroom
  -- from here on only the two lengths and their bounds matter
  generalize min data.length b.available = count at hcount hroom hfront
  have hfirst : min count (b.capacity - b.position b.head) ≤ count := Nat.min_le_left _ _
  have hend : min count (b.capacity - b.position b.head) ≤ b.capacity - b.position b.head :=
    Nat.min_le_right _ _
  generalize min count (b.capacity - b.position b.head) = first at hfirst hend hfront
  have hbehind := isFree_behind h (Nat.le_trans hfirst hroom)
  have hslice : slice data 0 first = some (data.take first) := slice_eq (Nat.zero_le _) (by omega)
  have hrest : slice data first count = some ((data.take count).drop first) :=
    slice_eq hfirst hcount
  have hwrite : write b (b.position b.head) (b.position b.head + first) (data.take first)
      = some (overwritten b (b.position b.head) (data.take first)) := by
    refine write_eq (Nat.le_add_right _ _) (by omega) ?_ hbehind
    rw [List.length_take]
    omega
  -- the second write begins at the front, which lies before the tail
  have hagain : write (overwritten b (b.position b.head) (data.take first)) 0 (count - first)
      ((data.take count).drop first)
      = some (overwritten (overwritten b (b.position b.head) (data.take first)) 0
        ((data.take count).drop first)) := by
    have hfits : b.available ≤ b.capacity := Nat.sub_le _ _
    refine write_eq (Nat.zero_le _) (by rw [capacity_overwritten]; omega) ?_ (by simp [hfront])
    rw [List.length_drop, List.length_take]
    omega
  rw [add_eq (le_maxWord hsize (by omega)), sub_eq hfirst, add_eq (le_maxWord hsize (by omega))]
  simp only [Option.bind_some, hslice, hwrite, hrest, hagain]
  rfl

/-! ### Growing and appending -/

/-- Two writes in a row are one. -/
theorem overwrite_append (storage : Array UInt8) (start : Nat) (front back : Bytes) :
    overwrite storage start (front ++ back)
      = overwrite (overwrite storage start front) (start + front.length) back := by
  induction front generalizing storage start with
  | nil => rfl
  | cons x rest ih =>
      rw [List.cons_append, overwrite, overwrite, ih, List.length_cons, Nat.add_assoc,
        Nat.add_comm 1]

/-- In a buffer that holds nothing everything is free. -/
theorem isFree_of_drained {c : RingBuffer} (hzero : c.length = 0) (first last : Nat) :
    isFree c first last = true := by
  rw [isFree_iff, hzero]
  exact fun i hi => absurd hi (Nat.not_lt_zero i)

/-- Moving to new storage reads and writes within bounds. -/
theorem grow_eq (h : b.WellFormed) (hsize : b.capacity ≤ maxObject) {wanted : Nat}
    (hwanted : b.length ≤ wanted) (memory : Allocator) :
    grow b wanted memory = some (b.grow wanted memory) := by
  rw [grow, RingBuffer.grow]
  cases hpower : nextPowerOfTwo? wanted with
  | none => rfl
  | some size =>
      have hlarge := (nextPowerOfTwo?_spec hpower).1
      rcases hgrant : memory.request size with ⟨_ | _, rest⟩
      · simp only [hgrant]
      · have hheld : b.segments.1.length + b.segments.2.length = b.length := by
          rw [← List.length_append]
          exact length_toList h
        -- both writes go to fresh storage, where no position is taken
        have hfirst : write (blank size) 0 b.segments.1.length b.segments.1
            = some (overwritten (blank size) 0 b.segments.1) :=
          write_eq (Nat.zero_le _) (by rw [capacity_blank]; omega) rfl (isFree_of_drained rfl _ _)
        have hsecond : write (overwritten (blank size) 0 b.segments.1) b.segments.1.length b.length
            b.segments.2 = some (overwritten (overwritten (blank size) 0 b.segments.1)
              b.segments.1.length b.segments.2) :=
          write_eq (by omega) (by rw [capacity_overwritten, capacity_blank]; omega) (by omega)
            (isFree_of_drained rfl _ _)
        have hjoin := overwrite_append (Array.replicate size 0) 0 b.segments.1 b.segments.2
        rw [Nat.zero_add] at hjoin
        simp only [hgrant, Option.bind_eq_bind, Option.bind_some, length_eq h, segments_eq h hsize,
          hfirst, hsecond, RingBuffer.toList, hjoin]
        rfl

/-- Storage that was granted is well-formed when the held bytes are in it. -/
theorem grow_ok {wanted : Nat} {memory memory' : Allocator} {larger : RingBuffer}
    (hwanted : b.length ≤ wanted) (hgrow : b.grow wanted memory = (.ok larger, memory')) :
    larger.WellFormed ∧ larger.capacity ≤ maxObject := by
  cases hgrant : grantedCapacity wanted memory with
  | none =>
      obtain ⟨cause, herror⟩ := grow_of_refused (b := b) hgrant
      cases hgrow.symm.trans herror
  | some size =>
      obtain ⟨hlarge, hpow⟩ := grantedCapacity_spec hgrant
      cases hgrow.symm.trans (grow_of_granted hgrant)
      refine ⟨movedTo_wellFormed hpow (by omega), ?_⟩
      rw [capacity_movedTo]
      exact Allocator.request_le (Option.filter_eq_some_iff.mp hgrant).2

/-- An append, with growth or without, meets no check that fails. -/
theorem append_eq (h : b.WellFormed) (hsize : b.capacity ≤ maxObject) (data : Bytes)
    (allowGrow : Bool)
    (memory : Allocator) :
    append b data allowGrow memory = some (b.append data allowGrow memory) := by
  rw [append, RingBuffer.append]
  by_cases hempty : data.isEmpty = true
  · simp [hempty]
  · have hlen := h.length_le
    have hwanted : b.length ≤ min (b.length + data.length) maxWord := by
      have := le_maxWord hsize (n := b.length) (by omega)
      omega
    simp only [Option.bind_eq_bind, Option.bind_some, available_eq h, if_neg hempty, length_eq h]
    by_cases hgrows : (decide (b.available < data.length) && allowGrow) = true
    · simp only [if_pos hgrows, grow_eq h hsize hwanted, Option.bind_some]
      rcases hgrow : b.grow (min (b.length + data.length) maxWord) memory
        with ⟨cause | larger, rest⟩
      · rfl
      · obtain ⟨hwf, hle⟩ := grow_ok hwanted hgrow
        simp only [store_eq hwf hle, Option.bind_some]
        rfl
    · simp only [if_neg hgrows, store_eq h hsize, Option.bind_some]
      rfl

/-! ### Taking out -/

/-- Bringing the offsets back subtracts nothing from less. -/
theorem normalize_eq (hle : b.tail ≤ b.head) : normalize b = some b.normalize := by
  rw [normalize, RingBuffer.normalize]
  split
  · rfl
  · split
    · rw [sub_eq (by omega), sub_eq (by omega)]
      rfl
    · rfl

/-- Dropping bytes from the front meets no check that fails. -/
theorem consume_eq (h : b.WellFormed) (hsize : b.capacity ≤ maxObject) (count : Nat) :
    consume b count = some (b.consume count) := by
  have htail := h.tail_lt
  have hlen := h.length_le
  have hcut : min count b.length ≤ b.length := Nat.min_le_right _ _
  have hle : b.tail + min count b.length ≤ b.head := by
    have := h.tail_le_head
    have : b.length = b.head - b.tail := rfl
    omega
  have hadd : add b.tail (min count b.length) = some (b.tail + min count b.length) :=
    add_eq (le_maxWord hsize (by omega))
  have hnormalize : normalize { b with tail := b.tail + min count b.length }
      = some (RingBuffer.normalize { b with tail := b.tail + min count b.length }) :=
        normalize_eq hle
  rw [consume, length_eq h]
  simp only [Option.bind_eq_bind, Option.bind_some, hadd, hnormalize]
  rfl

/-- The front of a list, as far as there is one. -/
theorem slice_front (data : Bytes) (n : Nat) {count : Nat} (hcount : count = min data.length n) :
    slice data 0 count = some (data.take n) ∧ count = (data.take n).length := by
  refine ⟨?_, by rw [List.length_take]; omega⟩
  rw [slice_eq (Nat.zero_le _) (by omega), List.drop_zero, List.take_eq_take_iff.mpr]
  omega

theorem copy_front {front destination : Bytes} (hfit : front.length ≤ destination.length) :
    copy destination 0 front.length front = some (front ++ destination.drop front.length) := by
  rw [copy_eq (Nat.zero_le _) hfit rfl, List.take_zero, List.nil_append]

theorem copy_behind {front back destination : Bytes}
    (hfit : front.length + back.length ≤ destination.length) :
    copy (front ++ destination.drop front.length) front.length (front.length + back.length) back
      = some (front ++ back ++ destination.drop (front.length + back.length)) := by
  have hlength : (front ++ destination.drop front.length).length = destination.length := by
    rw [List.length_append, List.length_drop]
    omega
  rw [copy_eq (Nat.le_add_right _ _) (by omega) (by omega), List.take_left, List.drop_append,
    List.drop_of_length_le (by omega), List.nil_append, List.drop_drop]
  congr 3
  omega

/-- Reading into a destination copies the two runs end to end. -/
theorem readInto_eq (h : b.WellFormed) (hsize : b.capacity ≤ maxObject) (destination : Bytes) :
    readInto b destination = some (b.readInto destination) := by
  have hlen := h.length_le
  have hheld : b.segments.1.length + b.segments.2.length = b.length := by
    rw [← List.length_append]
    exact length_toList h
  rw [readInto, segments_eq h hsize, RingBuffer.readInto, RingBuffer.read]
  simp only [Option.bind_eq_bind, Option.bind_some]
  -- from here on only the two runs and their lengths matter
  generalize b.segments.1 = first at hheld
  generalize b.segments.2 = second at hheld
  obtain ⟨hslice, hcount⟩ := slice_front first destination.length rfl
  rw [hcount] at hslice
  have hfront : (first.take destination.length).length ≤ first.length := by
    rw [List.length_take]
    omega
  have hfit : (first.take destination.length).length ≤ destination.length := by
    rw [List.length_take]
    omega
  generalize first.take destination.length = front at hslice hcount hfront hfit
  obtain ⟨hslice', hcount'⟩ := slice_front second (destination.length - front.length) rfl
  rw [hcount'] at hslice'
  have hback : (second.take (destination.length - front.length)).length ≤ second.length := by
    rw [List.length_take]
    omega
  have hfit' : front.length + (second.take (destination.length - front.length)).length
      ≤ destination.length := by
    rw [List.length_take]
    omega
  generalize second.take (destination.length - front.length) = back at hslice' hcount' hback hfit'
  have hadd : add front.length back.length = some (front.length + back.length) :=
    add_eq (le_maxWord hsize (by omega))
  have hconsumed : (b.consume (front.length + back.length)).1 = (front ++ back).length := by
    show min (front.length + back.length) b.length = _
    rw [List.length_append]
    omega
  simp only [Option.bind_some, hcount, hslice, copy_front hfit, sub_eq hfit, hcount', hslice', hadd,
    copy_behind hfit', consume_eq h hsize]
  rw [hconsumed, List.length_append]
  rfl

/-! ### Transfers -/

/-- A flush meets no check that fails, if the transport takes no more than it is offered. -/
theorem flushTo_eq (h : b.WellFormed) (hsize : b.capacity ≤ maxObject) {t : Transport σ}
    (ht : t.Honest) (s : σ) : flushTo t b s = some (b.flushTo t s) := by
  rw [flushTo, RingBuffer.flushTo]
  by_cases hempty : b.isEmpty = true
  · simp [hempty]
  · simp only [if_neg hempty, length_eq h, segments_eq h hsize, Option.bind_eq_bind,
      Option.bind_some]
    have hheld : b.segments.1.length + b.segments.2.length = b.length := by
      rw [← List.length_append]
      exact length_toList h
    by_cases hsecond : b.segments.2.isEmpty = true
    · simp only [if_pos hsecond]
      rcases hsend : t.send b.segments.1 s with ⟨e | sent, s'⟩
      · rfl
      · have hle := ht.send_le _ _ _ _ hsend
        simp only [if_pos (show sent ≤ b.length by omega), consume_eq h hsize, Option.bind_some]
        rfl
    · simp only [if_neg hsecond]
      rcases hsend : t.sendPair b.segments.1 b.segments.2 s with ⟨e | sent, s'⟩
      · rfl
      · have hle := ht.sendPair_le _ _ _ _ _ hsend
        simp only [if_pos (show sent ≤ b.length by omega), consume_eq h hsize, Option.bind_some]
        rfl

/-- A fill meets no check that fails, if the transport brings no more than there is room
    for. -/
theorem fillRuns_eq {t : Transport σ} (ht : t.Fits) (runs total : Nat) (s : σ) (h : b.WellFormed)
    (hsize : b.capacity ≤ maxObject) (htotal : total + b.available ≤ maxWord) :
    fillRuns t runs total b s = some (RingBuffer.fillRuns t runs total b s) := by
  -- on the number of runs; the room bounds what is still added to the total
  induction runs generalizing b total s with
  | zero => rfl
  | succ runs ih =>
      rw [fillRuns, RingBuffer.fillRuns, available_eq h]
      simp only [Option.bind_eq_bind, Option.bind_some]
      by_cases hroom : b.available = 0
      · rw [if_pos hroom, if_pos hroom]
        rfl
      · have hstart : b.position b.head < b.capacity := Nat.mod_lt _ h.capacity_pos
        have hle := freeRun_le b
        have hspan : min b.available (b.capacity - b.position b.head) = b.freeRun := rfl
        have hfits : b.position b.head + b.freeRun ≤ b.capacity := by omega
        have hstop : add (b.position b.head) b.freeRun = some (b.position b.head + b.freeRun) :=
          add_eq (le_maxWord hsize (by omega))
        rw [if_neg hroom, if_neg hroom, position_eq h, Option.bind_some,
          sub_eq (Nat.le_of_lt hstart), Option.bind_some, hspan, hstop, Option.bind_some,
          if_pos ⟨Nat.le_add_right _ _, hfits, isFree_behind h hle⟩]
        rcases hrecv : t.recv b.freeRun s with ⟨e | ⟨data⟩ | _ | _, s'⟩
        · rfl
        -- the one place where bytes are written: behind the head, into free positions
        · have hfit : data.length ≤ b.freeRun := ht _ _ _ _ (freeRun_pos hroom) hrecv
          have hhead : b.head + data.length ≤ 2 * b.capacity := by
            have := h.tail_lt
            have := h.head_le
            have : b.available = b.capacity - (b.head - b.tail) := rfl
            omega
          have hwrite : write b (b.position b.head) (b.position b.head + data.length) data
              = some (overwritten b (b.position b.head) data) :=
            write_eq (Nat.le_add_right _ _) (by omega) (by omega) (isFree_behind h (by omega))
          have hcommit :
              { overwritten b (b.position b.head) data with head := b.head + data.length }
              = b.store data := commit_eq_store b hfit
          simp only [add_eq (le_maxWord hsize (show b.position b.head + data.length ≤ _ by omega)),
            add_eq (le_maxWord hsize hhead), add_eq (show total + data.length ≤ maxWord by omega),
            Option.bind_some, hwrite, hcommit, commit_eq_store b hfit]
          by_cases hlt : data.length < b.freeRun
          · rw [if_pos hlt, if_pos hlt]
            rfl
          · rw [if_neg hlt, if_neg hlt]
            have hroom' := available_store h (show data.length ≤ b.available by omega)
            exact ih (total + data.length) s' (store_wellFormed h data)
              (by rw [capacity_store]; exact hsize)
              (by omega)
        · rfl
        · rfl

/-! ## Runs of operations -/

/-- **No operation on a well-formed buffer leaves its range.** -/
theorem perform_eq (h : b.WellFormed) (hsize : b.capacity ≤ maxObject) (op : Operation σ)
    (hop : op.Honest) :
    perform b op = some (b.perform op) := by
  cases op with
  | append data allowGrow memory => rw [perform, append_eq h hsize]; rfl
  | consume count => rw [perform, consume_eq h hsize]; rfl
  | readInto destination => rw [perform, readInto_eq h hsize]; rfl
  | clear => rfl
  | flush t s => rw [perform, flushTo_eq h hsize hop]; rfl
  | fill t s =>
      have htotal : 0 + b.available ≤ maxWord := le_maxWord hsize (by
        have : b.available ≤ b.capacity := Nat.sub_le _ _
        omega)
      rw [perform, fillRuns_eq hop.fits 2 0 s h hsize htotal]
      rfl

end

end Checked

/-- Storage of a size that memory can have stays of such a size. -/
theorem RingBuffer.capacity_perform_le {b : RingBuffer} (h : b.WellFormed)
    (hsize : b.capacity ≤ maxObject)
    (op : Operation σ) (hop : op.Honest) : (b.perform op).2.capacity ≤ maxObject := by
  have hstep := (perform_refines h op hop).1
  have hcap : (b.perform op).2.capacity = (b.perform op).2.queue.capacity := rfl
  rw [hcap]
  generalize (b.perform op).2.queue = q at hstep
  generalize (b.perform op).1 = a at hstep
  cases hstep with
  | appendGrows hcut hgrant => exact Allocator.request_le (Option.filter_eq_some_iff.mp hgrant).2
  | _ => exact hsize

namespace Checked

/-- A run of operations answers as the plain run does, in whose end the buffer is
    well-formed again. -/
theorem performAll_eq {b : RingBuffer} (h : b.WellFormed) (hsize : b.capacity ≤ maxObject)
    (ops : List (Operation σ)) (hops : ∀ op ∈ ops, op.Honest) :
    performAll b ops = some (b.performAll ops) ∧ (b.performAll ops).2.WellFormed
      ∧ (b.performAll ops).2.capacity ≤ maxObject := by
  -- on the operations: each leaves a buffer that keeps the bounds of the next
  induction ops generalizing b with
  | nil => exact ⟨rfl, h, hsize⟩
  | cons op ops ih =>
      have hop := hops op List.mem_cons_self
      obtain ⟨hrest, hwf, hle⟩ :=
        ih (perform_refines h op hop).2 (capacity_perform_le h hsize op hop)
        (fun o ho => hops o (List.mem_cons_of_mem _ ho))
      refine ⟨?_, hwf, hle⟩
      rw [performAll, perform_eq h hsize op hop]
      simp only [Option.bind_eq_bind, Option.bind_some, hrest]
      rfl

end Checked

namespace RingBuffer

/-- **Nothing leaves its range.**  Whatever is done to a new buffer whose storage
    memory can hold: every difference, sum, slice and copy stays in range, held
    bytes are not written over, and what comes out is a buffer whose offsets
    are in their bounds and whose measures can be taken. -/
theorem performAll_checked {size : Nat} (hsize : isPowerOfTwo size = true)
    (hfits : size ≤ maxObject) (ops : List (Operation σ)) (hops : ∀ op ∈ ops, op.Honest) :
    (∀ memory : Allocator,
      (memory.request size).1 = true → (create size memory).1 = .ok (blank size))
      ∧ Checked.performAll (blank size) ops = some ((blank size).performAll ops)
      ∧ ∀ b, b = ((blank size).performAll ops).2 →
        isPowerOfTwo b.capacity = true ∧ b.tail < b.capacity ∧ b.tail ≤ b.head
          ∧ b.head ≤ b.tail + b.capacity ∧ b.head < 2 * b.capacity
          ∧ (b.length = 0 → b.head = 0 ∧ b.tail = 0)
          ∧ Checked.length b = some b.length ∧ Checked.available b = some b.available
          ∧ Checked.isFull b = some b.isFull ∧ Checked.segments b = some b.segments := by
  have hpow := isPowerOfTwo_sound hsize
  have hstart : (blank size).capacity ≤ maxObject := by
    rw [capacity_blank]
    exact hfits
  obtain ⟨hrun, hwf, hle⟩ := Checked.performAll_eq (blank_wellFormed hpow) hstart ops hops
  refine ⟨fun memory hmemory => by rw [create_eq hsize hmemory], hrun, ?_⟩
  rintro b rfl
  have htail := hwf.tail_lt
  have hhead := hwf.head_le
  have horder := hwf.tail_le_head
  refine ⟨isPowerOfTwo_complete hwf.powerOfTwo, htail, horder, hhead, by omega, ?_,
    Checked.length_eq hwf, Checked.available_eq hwf, Checked.isFull_eq hwf,
    Checked.segments_eq hwf hle⟩
  intro hempty
  have hlength : ((blank size).performAll ops).2.length
      = ((blank size).performAll ops).2.head - ((blank size).performAll ops).2.tail := rfl
  -- the offsets are equal, and then both are zero
  have htail' := hwf.drained (by omega)
  exact ⟨by omega, htail'⟩

/-- The statement at a run in which the data wraps and the buffer grows. -/
theorem performAll_checked_wrapping :
    isPowerOfTwo 4 = true ∧ 4 ≤ maxObject ∧ (∀ op ∈ wrappingOperations, op.Honest)
      ∧ Checked.performAll (blank 4) wrappingOperations
          = some ((blank 4).performAll wrappingOperations) :=
  ⟨by decide, by decide, wrappingOperations_honest,
    (performAll_checked (by decide) (by decide) wrappingOperations wrappingOperations_honest).2.1⟩

end RingBuffer

end EventLoop
