import EventLoop.Proofs.RingBuffer.Layout

/-! # What the operations do to the held bytes

    Each operation on a ring buffer, said of the list of held bytes: appending
    adds at the back, consuming and reading drop at the front, growth keeps what
    is held. Each also keeps `WellFormed`.

    Behind appends and receives stands one statement about storing
    (`toList_store`): the free space is wherever no held offset lies, so what is
    written there moves nothing that is held. -/

namespace EventLoop

/-! ## Powers of two -/

/-- The power found is large enough. -/
theorem nextPowerOfTwo?_spec {n power : Nat} (h : nextPowerOfTwo? n = some power) :
    n ≤ power ∧ power.isPowerOfTwo := by
  simp only [nextPowerOfTwo?] at h
  by_cases hone : n ≤ 1
  · rw [if_pos hone] at h
    rw [if_pos (show 1 ≤ maxWord by decide)] at h
    obtain rfl := Option.some.inj h
    exact ⟨hone, Nat.isPowerOfTwo_one⟩
  · rw [if_neg hone] at h
    by_cases hword : 1 <<< ((n - 1).log2 + 1) ≤ maxWord
    · rw [if_pos hword] at h
      obtain rfl := Option.some.inj h
      rw [Nat.one_shiftLeft]
      have hlt := @Nat.lt_log2_self (n - 1)
      exact ⟨by omega, _, rfl⟩
    · rw [if_neg hword] at h
      cases h

/-- The power found is a word. -/
theorem nextPowerOfTwo?_le {n power : Nat} (h : nextPowerOfTwo? n = some power) :
    power ≤ maxWord := by
  simp only [nextPowerOfTwo?] at h
  by_cases hword : (if n ≤ 1 then 1 else 1 <<< ((n - 1).log2 + 1)) ≤ maxWord
  · rw [if_pos hword] at h
    exact Option.some.inj h ▸ hword
  · rw [if_neg hword] at h
    cases h

/-- Cutting a number down to a word does not change what power is found: past
    half the words there is none. -/
theorem nextPowerOfTwo?_min_maxWord (n : Nat) :
    nextPowerOfTwo? (min n maxWord) = nextPowerOfTwo? n := by
  by_cases hle : n ≤ maxWord
  · rw [Nat.min_eq_left hle]
  · have hword : nextPowerOfTwo? maxWord = none := by decide +kernel
    rw [Nat.min_eq_right (by omega), hword]
    cases hn : nextPowerOfTwo? n with
    | none => rfl
    | some power =>
        -- a power found would be a word, yet at least `n`
        have hspec := (nextPowerOfTwo?_spec hn).1
        have hfound : power ≤ maxWord := nextPowerOfTwo?_le hn
        omega

/-- What passes the test on bits is a power of two. -/
theorem isPowerOfTwo_sound {n : Nat} (h : isPowerOfTwo n = true) : n.isPowerOfTwo := by
  rw [isPowerOfTwo, Bool.and_eq_true, beq_iff_eq, Nat.one_shiftLeft] at h
  exact ⟨n.log2, h.2.symm⟩

/-! ## Memory -/

/-- Memory is granted for objects only. -/
theorem Allocator.request_le {memory : Allocator} {size : Nat}
    (h : (memory.request size).1 = true) :
    size ≤ maxObject := by
  rw [request] at h
  split at h
  · cases h
  · omega

/-- A refused request takes nothing from the memory. -/
theorem Allocator.request_of_refused {memory : Allocator} {size : Nat}
    (h : (memory.request size).1 = false) :
    memory.request size = (false, memory) := by
  grind [request]

namespace RingBuffer

variable {b : RingBuffer} {σ : Type}

/-! ## Storing -/

@[simp] theorem capacity_store (b : RingBuffer) (data : Bytes) :
    (b.store data).capacity = b.capacity := by
  show (overwrite (overwrite b.storage _ _) _ _).size = b.storage.size
  rw [size_overwrite, size_overwrite]

/-- What stands under a position after storing: the data up to the end of the
    storage, its rest at the front. -/
theorem getD_store (b : RingBuffer) (data : Bytes) (i : Nat) :
    (b.store data).storage.getD i 0
      = if i + min (min data.length b.available) (b.capacity - b.position b.head)
            < min data.length b.available ∧ i < b.capacity
        then data.getD (i + min (min data.length b.available) (b.capacity - b.position b.head)) 0
        else if b.position b.head ≤ i
            ∧ i < b.position b.head
                + min (min data.length b.available) (b.capacity - b.position b.head)
            ∧ i < b.capacity
          then data.getD (i - b.position b.head) 0
          else b.storage.getD i 0 := by
  show (overwrite (overwrite b.storage _ _) _ _).getD i 0 = _
  rw [getD_overwrite, getD_overwrite, size_overwrite, show b.storage.size = b.capacity from rfl]
  have hcount : min data.length b.available ≤ data.length := Nat.min_le_left _ _
  generalize min data.length b.available = count at hcount
  have hfirst : min count (b.capacity - b.position b.head) ≤ count := Nat.min_le_left _ _
  generalize min count (b.capacity - b.position b.head) = first at hfirst
  rw [List.length_drop, List.length_take, List.length_take, Nat.min_eq_left hcount,
    Nat.min_eq_left (Nat.le_trans hfirst hcount)]
  -- the position was written by the second run, by the first, or not at all
  by_cases hback : i + first < count ∧ i < b.capacity
  · rw [if_pos (show 0 ≤ i ∧ i < 0 + (count - first) ∧ i < b.capacity by omega), if_pos hback]
    rw [List.getD_eq_getElem?_getD, List.getD_eq_getElem?_getD, List.getElem?_drop,
      List.getElem?_take, if_pos (show first + (i - 0) < count by omega), Nat.sub_zero,
      Nat.add_comm]
  · rw [if_neg (show ¬ (0 ≤ i ∧ i < 0 + (count - first) ∧ i < b.capacity) by omega), if_neg hback]
    by_cases hfront : b.position b.head ≤ i ∧ i < b.position b.head + first ∧ i < b.capacity
    · rw [if_pos hfront, if_pos hfront, List.getD_eq_getElem?_getD, List.getD_eq_getElem?_getD,
        List.getElem?_take, if_pos (show i - b.position b.head < first by omega)]
    · rw [if_neg hfront, if_neg hfront]

/-- The stored data stands under the offsets from the head on. -/
theorem byteAt_store_new (h : b.WellFormed) (data : Bytes) {j : Nat}
    (hj : j < min data.length b.available) :
    (b.store data).byteAt (b.head + j) = data.getD j 0 := by
  have htail := h.tail_lt
  have hhead := h.head_le
  have hle := h.tail_le_head
  have hroom : min data.length b.available ≤ b.capacity - (b.head - b.tail) := Nat.min_le_right _ _
  have hpos : b.position b.head = if b.head < b.capacity then b.head else b.head - b.capacity :=
    position_eq (by omega)
  have hposj : (b.store data).position (b.head + j)
      = if b.head + j < b.capacity then b.head + j else b.head + j - b.capacity := by
    rw [position_eq (by rw [capacity_store]; omega), capacity_store]
  rw [byteAt, getD_store, hposj]
  generalize min data.length b.available = count at hj hroom
  generalize b.position b.head = start at hpos
  by_cases hwrap : start + j < b.capacity
  · -- before the end of the storage
    have hi : (if b.head + j < b.capacity then b.head + j else b.head + j - b.capacity)
        = start + j := by
      split at hpos <;> split <;> omega
    rw [hi, if_neg (by omega), if_pos (by omega), Nat.add_sub_cancel_left]
  · have hi : (if b.head + j < b.capacity then b.head + j else b.head + j - b.capacity)
        = start + j - b.capacity := by
      split at hpos <;> split <;> omega
    have hj' : start + j - b.capacity + min count (b.capacity - start) = j := by
      split at hpos <;> omega
    rw [hi, hj', if_pos (by omega)]

/-- Storing leaves the held bytes alone. -/
theorem byteAt_store_old (h : b.WellFormed) (data : Bytes) {offset : Nat}
    (hge : b.tail ≤ offset) (hlt : offset < b.head) :
    (b.store data).byteAt offset = b.byteAt offset := by
  have htail := h.tail_lt
  have hhead := h.head_le
  have hroom : min data.length b.available ≤ b.capacity - (b.head - b.tail) := Nat.min_le_right _ _
  have hpos : b.position b.head = if b.head < b.capacity then b.head else b.head - b.capacity :=
    position_eq (by omega)
  have hposo : b.position offset = if offset < b.capacity then offset else offset - b.capacity :=
    position_eq (by omega)
  have hsame : (b.store data).position offset = b.position offset := by
    show offset % (b.store data).capacity = offset % b.capacity
    rw [capacity_store]
  rw [byteAt, byteAt, hsame, getD_store]
  generalize min data.length b.available = count at hroom
  generalize b.position b.head = start at hpos
  generalize b.position offset = i at hposo
  -- a held offset lies neither in the run up to the end nor in the one at the front
  rw [if_neg (by split at hpos <;> split at hposo <;> omega),
    if_neg (by split at hpos <;> split at hposo <;> omega)]

/-- Storing advances the head by no more than there is room for. -/
theorem store_wellFormed (h : b.WellFormed) (data : Bytes) : (b.store data).WellFormed := by
  have hhead := h.head_le
  have hle := h.tail_le_head
  have hdrained := h.drained
  have hnew : (b.store data).head = b.head + min data.length b.available := rfl
  have hroom : min data.length b.available ≤ b.capacity - (b.head - b.tail) := Nat.min_le_right _ _
  refine ⟨?_, ?_, ?_, ?_, ?_⟩
  · rw [capacity_store]
    exact h.powerOfTwo
  · rw [capacity_store]
    exact h.tail_lt
  · rw [hnew]
    exact Nat.le_add_right_of_le hle
  · rw [hnew, capacity_store]
    show b.head + _ ≤ b.tail + b.capacity
    omega
  · rw [hnew]
    intro heq
    have heq' : b.head + min data.length b.available = b.tail := heq
    exact hdrained (by omega)

theorem length_store (h : b.WellFormed) (data : Bytes) :
    (b.store data).length = b.length + min data.length b.available := by
  have hle := h.tail_le_head
  show b.head + min data.length b.available - b.tail = b.head - b.tail + _
  omega

/-- Storing adds at the back as much of the data as fits. -/
theorem toList_store (h : b.WellFormed) (data : Bytes) :
    (b.store data).toList = b.toList ++ data.take b.available := by
  have hle := h.tail_le_head
  have hlen : b.tail + b.length = b.head := by
    show b.tail + (b.head - b.tail) = b.head
    omega
  rw [toList_eq (store_wellFormed h data), length_store h, bytesFrom_add, toList_eq h]
  have hold :
      (b.store data).bytesFrom (b.store data).tail b.length = b.bytesFrom b.tail b.length := by
    refine bytesFrom_congr ?_
    intro i hi
    show (b.store data).byteAt (b.tail + i) = b.byteAt (b.tail + i)
    exact byteAt_store_old h data (Nat.le_add_right _ _) (by omega)
  have hnew : (b.store data).bytesFrom b.head (min data.length b.available)
      = data.take b.available := by
    refine List.ext_getElem (by rw [length_bytesFrom, List.length_take, Nat.min_comm]) ?_
    intro i hi _
    rw [length_bytesFrom] at hi
    have hbyte := byteAt_store_new h data hi
    simp only [bytesFrom, List.getElem_map, List.getElem_range, List.getElem_take]
    rw [hbyte, List.getD_eq_getElem?_getD, List.getElem?_eq_getElem (by omega), Option.getD_some]
  rw [hold, show (b.store data).tail + b.length = b.head from hlen, hnew]

/-! ## Consuming, reading and clearing -/

/-- Offsets that run ahead by less than two capacities are brought back within bounds. -/
theorem normalize_wellFormed {c : RingBuffer} (hpow : c.capacity.isPowerOfTwo)
    (htail : c.tail < 2 * c.capacity) (hle : c.tail ≤ c.head)
    (hhead : c.head ≤ c.tail + c.capacity) :
    c.normalize.WellFormed := by
  have hpos : 0 < c.capacity := by omega
  rw [normalize]
  by_cases hempty : c.head = c.tail
  · rw [if_pos hempty]
    exact ⟨hpow, hpos, Nat.le_refl _, Nat.zero_le _, fun _ => rfl⟩
  · rw [if_neg hempty]
    -- both offsets go back by one capacity, or neither does
    by_cases hpass : c.capacity ≤ c.tail
    · rw [if_pos hpass]
      refine ⟨hpow, ?_, ?_, ?_, ?_⟩
      · show c.tail - c.capacity < c.capacity
        omega
      · show c.tail - c.capacity ≤ c.head - c.capacity
        omega
      · show c.head - c.capacity ≤ c.tail - c.capacity + c.capacity
        omega
      · intro heq
        have heq' : c.head - c.capacity = c.tail - c.capacity := heq
        omega
    · rw [if_neg hpass]
      exact ⟨hpow, by omega, hle, hhead, fun heq => absurd heq hempty⟩

/-- Bringing the offsets back keeps the run between them. -/
theorem bytesFrom_normalize {c : RingBuffer} (hle : c.tail ≤ c.head) :
    c.normalize.bytesFrom c.normalize.tail c.normalize.length = c.bytesFrom c.tail c.length := by
  rw [normalize]
  by_cases hempty : c.head = c.tail
  · have hzero : c.length = 0 := by
      show c.head - c.tail = 0
      omega
    rw [if_pos hempty, hzero]
    rfl
  · rw [if_neg hempty]
    by_cases hpass : c.capacity ≤ c.tail
    · rw [if_pos hpass]
      have hlen : (c.head - c.capacity) - (c.tail - c.capacity) = c.length := by
        show _ = c.head - c.tail
        omega
      show bytesFrom _ (c.tail - c.capacity) ((c.head - c.capacity) - (c.tail - c.capacity)) = _
      rw [hlen]
      refine bytesFrom_congr ?_
      intro i _
      show c.byteAt (c.tail - c.capacity + i) = c.byteAt (c.tail + i)
      rw [← byteAt_sub_capacity c (c.tail + i) (by omega), Nat.sub_add_comm hpass]
    · rw [if_neg hpass]

@[simp] theorem capacity_normalize (c : RingBuffer) : c.normalize.capacity = c.capacity := by
  rw [normalize]
  split
  · rfl
  · split <;> rfl

@[simp] theorem capacity_consume (b : RingBuffer) (count : Nat) :
    (b.consume count).2.capacity = b.capacity := capacity_normalize _

/-- Dropping bytes keeps the offsets within bounds, and a drained buffer starts at zero. -/
theorem consume_wellFormed (h : b.WellFormed) (count : Nat) : (b.consume count).2.WellFormed := by
  have htail := h.tail_lt
  have hle := h.tail_le_head
  have hhead := h.head_le
  have hcut : min count b.length ≤ b.head - b.tail := Nat.min_le_right _ _
  refine normalize_wellFormed h.powerOfTwo ?_ ?_ ?_
  · show b.tail + min count b.length < 2 * b.capacity
    have := h.length_le
    omega
  · show b.tail + min count b.length ≤ b.head
    omega
  · show b.head ≤ b.tail + min count b.length + b.capacity
    omega

/-- As many bytes are dropped as are asked for and held. -/
theorem consume_count (h : b.WellFormed) (count : Nat) :
    (b.consume count).1 = min count b.toList.length := by
  rw [length_toList h]
  rfl

/-- Consuming drops at the front. -/
theorem toList_consume (h : b.WellFormed) (count : Nat) :
    (b.consume count).2.toList = b.toList.drop count := by
  have hle := h.tail_le_head
  have hcut : min count b.length ≤ b.length := Nat.min_le_right _ _
  have hlen : b.head - (b.tail + min count b.length) = b.length - min count b.length := by
    show _ = b.head - b.tail - _
    omega
  have hmoved : b.tail + min count b.length ≤ b.head := by
    have : b.length = b.head - b.tail := rfl
    omega
  rw [toList_eq (consume_wellFormed h count)]
  show bytesFrom (normalize { b with tail := b.tail + min count b.length }) _ _ = _
  refine (bytesFrom_normalize (c := { b with tail := b.tail + min count b.length }) hmoved).trans ?_
  show b.bytesFrom (b.tail + min count b.length) (b.head - (b.tail + min count b.length)) = _
  rw [hlen, ← drop_bytesFrom b b.tail _ _ hcut, ← toList_eq h]
  by_cases hall : count ≤ b.length
  · rw [Nat.min_eq_left hall]
  · have hlist := length_toList h
    rw [Nat.min_eq_right (by omega), List.drop_of_length_le (by omega),
      List.drop_of_length_le (by omega)]

/-- Reading takes the front of the held bytes. -/
theorem read_data (b : RingBuffer) (room : Nat) : (b.read room).1 = b.toList.take room := by
  show b.segments.1.take room ++ b.segments.2.take (room - (b.segments.1.take room).length) = _
  rw [toList, List.take_append, List.length_take]
  by_cases hroom : room ≤ b.segments.1.length
  · rw [Nat.min_eq_left hroom, Nat.sub_self, Nat.sub_eq_zero_of_le hroom]
  · rw [Nat.min_eq_right (by omega)]

/-- No more is read than there is room for. -/
theorem length_le_of_read {room : Nat} {data : Bytes} {rest : RingBuffer}
    (hread : b.read room = (data, rest)) :
    data.length ≤ room := by
  have hdata := read_data b room
  rw [hread] at hdata
  rw [show data = _ from hdata]
  exact List.length_take_le room b.toList

/-- With room for a byte, nothing is read only where nothing is held. -/
theorem toList_of_read_nil {room : Nat} {rest : RingBuffer} (hroom : room ≠ 0)
    (hread : b.read room = ([], rest)) :
    b.toList = [] := by
  have hdata := read_data b room
  rw [hread] at hdata
  exact (List.take_eq_nil_iff.mp hdata.symm).elim (fun hzero => absurd hzero hroom) id

/-- Reading consumes what it takes. -/
theorem read_buffer (b : RingBuffer) (room : Nat) :
    (b.read room).2 = (b.consume (b.read room).1.length).2 := by
  rw [read, List.length_append]

/-- Reading is dropping, as far as the offsets go. -/
theorem read_wellFormed (h : b.WellFormed) (room : Nat) : (b.read room).2.WellFormed := by
  rw [read_buffer]
  exact consume_wellFormed h _

theorem toList_read (h : b.WellFormed) (room : Nat) :
    (b.read room).2.toList = b.toList.drop room := by
  rw [read_buffer, toList_consume h, read_data, List.length_take]
  by_cases hroom : room ≤ b.toList.length
  · rw [Nat.min_eq_left hroom]
  · rw [Nat.min_eq_right (by omega), List.drop_length, List.drop_of_length_le (by omega)]

/-- What is read stood before what is left. -/
theorem toList_of_read (h : b.WellFormed) {room : Nat} {data : Bytes} {rest : RingBuffer}
    (hread : b.read room = (data, rest)) : b.toList = data ++ rest.toList := by
  have hdata := read_data b room
  have hrest := toList_read h room
  rw [hread] at hdata hrest
  rw [show data = _ from hdata, show rest.toList = _ from hrest, List.take_append_drop]

theorem clear_wellFormed (h : b.WellFormed) : b.clear.WellFormed :=
  ⟨h.powerOfTwo, h.capacity_pos, Nat.le_refl _, Nat.zero_le _, fun _ => rfl⟩

theorem toList_clear (h : b.WellFormed) : b.clear.toList = [] := by
  rw [toList_eq (clear_wellFormed h)]
  rfl

/-! ## Creating and growing -/

/-- An empty buffer with storage for `size` bytes. -/
def blank (size : Nat) : RingBuffer := ⟨Array.replicate size 0, 0, 0⟩

@[simp] theorem capacity_blank (size : Nat) : (blank size).capacity = size := Array.size_replicate

/-- A power of two that memory grants makes an empty buffer of that size. -/
theorem create_eq {size : Nat} {memory : Allocator} (hsize : isPowerOfTwo size = true)
    (hmemory : (memory.request size).1 = true) :
    create size memory = (.ok (blank size), (memory.request size).2) := by
  rw [create, hsize]
  cases hreq : memory.request size with
  | mk granted rest =>
      rw [hreq] at hmemory
      rw [show granted = true from hmemory]
      rfl

/-- Nothing else makes a buffer. -/
theorem create_ok {size : Nat} {memory memory' : Allocator} {b : RingBuffer}
    (h : create size memory = (.ok b, memory')) : size.isPowerOfTwo ∧ b = blank size := by
  rw [create] at h
  split at h
  · cases h
  · rename_i hsize
    rw [Bool.not_eq_true', Bool.not_eq_false] at hsize
    rcases hrequest : memory.request size with ⟨granted, m⟩
    rw [hrequest] at h
    cases granted with
    | true =>
        obtain rfl := Except.ok.inj (congrArg Prod.fst h)
        exact ⟨isPowerOfTwo_sound hsize, rfl⟩
    | false => cases h

/-- A buffer was created where its memory was granted. -/
theorem create_granted {size : Nat} {memory memory' : Allocator} {b : RingBuffer}
    (h : create size memory = (.ok b, memory')) : (memory.request size).1 = true := by
  rw [create] at h
  split at h
  · cases h
  · rcases hrequest : memory.request size with ⟨granted, m⟩
    rw [hrequest] at h
    cases granted with
    | true => rfl
    | false => cases h

theorem blank_wellFormed {size : Nat} (hpow : size.isPowerOfTwo) : (blank size).WellFormed := by
  obtain ⟨k, rfl⟩ := hpow
  refine ⟨⟨k, capacity_blank _⟩, ?_, Nat.le_refl _, Nat.zero_le _, fun _ => rfl⟩
  rw [capacity_blank]
  exact Nat.two_pow_pos k

theorem toList_blank {size : Nat} (hpow : size.isPowerOfTwo) : (blank size).toList = [] := by
  rw [toList_eq (blank_wellFormed hpow)]
  rfl

/-- The held bytes at the front of new storage. -/
def movedTo (b : RingBuffer) (size : Nat) : RingBuffer :=
  ⟨overwrite (Array.replicate size 0) 0 b.toList, b.length, 0⟩

@[simp] theorem capacity_movedTo (b : RingBuffer) (size : Nat) :
    (b.movedTo size).capacity = size := by
  show (overwrite (Array.replicate size 0) 0 b.toList).size = size
  rw [size_overwrite, Array.size_replicate]

/-- Moving to storage in which the held bytes fit keeps the buffer in order. -/
theorem movedTo_wellFormed {size : Nat} (hpow : size.isPowerOfTwo) (hfit : b.length ≤ size) :
    (b.movedTo size).WellFormed := by
  refine ⟨?_, ?_, Nat.zero_le _, ?_, fun _ => rfl⟩
  · rw [capacity_movedTo]
    exact hpow
  · obtain ⟨k, rfl⟩ := hpow
    rw [capacity_movedTo]
    exact Nat.two_pow_pos k
  · rw [capacity_movedTo]
    show b.length ≤ 0 + size
    omega

/-- Moving to larger storage keeps what is held. -/
theorem toList_movedTo (h : b.WellFormed) {size : Nat} (hpow : size.isPowerOfTwo)
    (hfit : b.length ≤ size) : (b.movedTo size).toList = b.toList := by
  have hlist := length_toList h
  rw [toList_eq (movedTo_wellFormed hpow hfit)]
  show (b.movedTo size).bytesFrom 0 (b.length - 0) = b.toList
  refine List.ext_getElem (by rw [length_bytesFrom, hlist, Nat.sub_zero]) ?_
  intro i hi _
  rw [length_bytesFrom, Nat.sub_zero] at hi
  have hpos : (b.movedTo size).position (0 + i) = i := by
    show (0 + i) % (b.movedTo size).capacity = i
    rw [capacity_movedTo, Nat.zero_add, Nat.mod_eq_of_lt (by omega)]
  simp only [bytesFrom, List.getElem_map, List.getElem_range, byteAt, hpos]
  show (overwrite (Array.replicate size 0) 0 b.toList).getD i 0 = b.toList[i]
  rw [getD_overwrite, if_pos ⟨Nat.zero_le _, by omega, by rw [Array.size_replicate]; omega⟩,
    Nat.sub_zero, List.getD_eq_getElem?_getD, List.getElem?_eq_getElem (by omega), Option.getD_some]

/-- The storage that growth to `wanted` bytes gets, if there is memory for it:
    the next power of two. -/
def grantedCapacity (wanted : Nat) (memory : Allocator) : Option Nat :=
  (nextPowerOfTwo? wanted).filter fun size => (memory.request size).1

/-- What is granted is a power of two and large enough. -/
theorem grantedCapacity_spec {wanted size : Nat} {memory : Allocator}
    (h : grantedCapacity wanted memory = some size) : wanted ≤ size ∧ size.isPowerOfTwo :=
  nextPowerOfTwo?_spec (Option.filter_eq_some_iff.mp h).1

/-- Growth that is granted moves the held bytes. -/
theorem grow_of_granted {wanted size : Nat} {memory : Allocator}
    (h : grantedCapacity wanted memory = some size) :
    b.grow wanted memory = (.ok (b.movedTo size), (memory.request size).2) := by
  obtain ⟨hpower, hmemory⟩ := Option.filter_eq_some_iff.mp h
  cases hreq : memory.request size with
  | mk granted rest =>
      rw [hreq] at hmemory
      obtain rfl : granted = true := hmemory
      simp only [grow, hpower, hreq]
      rfl

/-- Growth that is not granted leaves memory as it is. -/
theorem grow_of_refused {wanted : Nat} {memory : Allocator}
    (h : grantedCapacity wanted memory = none) :
    ∃ cause, b.grow wanted memory = (.error cause, memory) := by
  rw [grow]
  cases hpower : nextPowerOfTwo? wanted with
  | none => exact ⟨_, rfl⟩
  | some size =>
      rw [grantedCapacity, hpower, Option.filter_some] at h
      cases hgranted : (memory.request size).1 with
      | false =>
          refine ⟨.outOfMemory size, ?_⟩
          simp only [Allocator.request_of_refused hgranted]
      | true =>
          rw [hgranted, if_pos rfl] at h
          cases h

/-! ## Appending -/

theorem store_nil (b : RingBuffer) : b.store [] = b := by
  have hzero : min ([] : Bytes).length b.available = 0 := Nat.zero_min _
  rw [store, hzero, List.take_nil, List.take_nil, List.drop_nil]
  rfl

/-- Data for which there is room is stored. -/
theorem append_of_fits (data : Bytes) (allowGrow : Bool) (memory : Allocator)
    (hfit : data.length ≤ b.available) :
    b.append data allowGrow memory = ⟨data.length, b.store data, .unchanged, memory⟩ := by
  cases data with
  | nil => rw [store_nil]; rfl
  | cons x rest =>
      have hroom : ¬ (b.available < (x :: rest).length) := by omega
      rw [append, decide_eq_false hroom, Bool.false_and, Nat.min_eq_left hfit]
      rfl

/-- Without growth as much is stored as there is room for. -/
theorem append_of_cut (data : Bytes) (memory : Allocator) (hcut : b.available < data.length) :
    b.append data false memory = ⟨b.available, b.store data, .unchanged, memory⟩ := by
  cases data with
  | nil => exact absurd hcut (Nat.not_lt_zero _)
  | cons x rest =>
      rw [append, Bool.and_false, Nat.min_eq_right (Nat.le_of_lt hcut)]
      rfl

/-- With growth granted the held bytes move, and everything is stored. -/
theorem append_eq_grown {data : Bytes} {memory : Allocator} {size : Nat}
    (hcut : b.available < data.length)
    (hgrant : grantedCapacity (b.length + data.length) memory = some size) :
    b.append data true memory
      = ⟨data.length, (b.movedTo size).store data, .grown b.capacity size,
        (memory.request size).2⟩ := by
  have hlarge := (grantedCapacity_spec hgrant).1
  have hroom : data.length ≤ (b.movedTo size).available := by
    show data.length ≤ (b.movedTo size).capacity - (b.length - 0)
    rw [capacity_movedTo]
    omega
  have hgrow : b.grow (min (b.length + data.length) maxWord) memory
      = (.ok (b.movedTo size), (memory.request size).2) := by
    refine grow_of_granted ?_
    rw [grantedCapacity, nextPowerOfTwo?_min_maxWord]
    exact hgrant
  cases data with
  | nil => exact absurd hcut (Nat.not_lt_zero _)
  | cons x rest =>
      rw [append, decide_eq_true hcut, Bool.and_true]
      simp only [List.isEmpty_cons, Bool.false_eq_true, if_false, if_true]
      rw [hgrow]
      simp only [Nat.min_eq_left hroom, capacity_movedTo]

/-- With growth refused nothing happens, in the memory either. -/
theorem append_eq_refused {data : Bytes} {memory : Allocator} (hcut : b.available < data.length)
    (hrefuse : grantedCapacity (b.length + data.length) memory = none) :
    ∃ cause, b.append data true memory
      = ⟨0, b, .refused (min (b.length + data.length) maxWord) cause, memory⟩ := by
  obtain ⟨cause, hgrow⟩ : ∃ cause,
      b.grow (min (b.length + data.length) maxWord) memory = (.error cause, memory) := by
    refine grow_of_refused ?_
    rw [grantedCapacity, nextPowerOfTwo?_min_maxWord]
    exact hrefuse
  refine ⟨cause, ?_⟩
  cases data with
  | nil => exact absurd hcut (Nat.not_lt_zero _)
  | cons x rest =>
      rw [append, decide_eq_true hcut, Bool.and_true]
      simp only [List.isEmpty_cons, Bool.false_eq_true, if_false, if_true]
      rw [hgrow]

/-- With growth granted everything is stored. -/
theorem append_of_granted {data : Bytes} {memory : Allocator} {size : Nat}
    (hcut : b.available < data.length)
    (hgrant : grantedCapacity (b.length + data.length) memory = some size) :
    (b.append data true memory).count = data.length
      ∧ (b.append data true memory).buffer = (b.movedTo size).store data := by
  rw [append_eq_grown hcut hgrant]
  exact ⟨rfl, rfl⟩

/-- With growth refused nothing is stored and the buffer stays as it was. -/
theorem append_of_refused {data : Bytes} {memory : Allocator} (hcut : b.available < data.length)
    (hrefuse : grantedCapacity (b.length + data.length) memory = none) :
    (b.append data true memory).count = 0 ∧ (b.append data true memory).buffer = b := by
  obtain ⟨cause, happend⟩ := append_eq_refused hcut hrefuse
  rw [happend]
  exact ⟨rfl, rfl⟩

end RingBuffer

end EventLoop
