import EventLoop.Proofs.RingBuffer.Flushing
import Mathlib.Algebra.GroupWithZero.Nat
import Mathlib.Data.Nat.Log
import Mathlib.Order.Bounds.Defs

/-! # Growth

    An append that may grow takes the least power of two of bytes that holds
    everything, where its storage is smaller. Nothing else changes the size of the
    storage.

    What appends come to is said of queues (`Queue.appended`), for which data can be
    cut (`Queue.appended_append`): rounding up is monotone, so what a front of the
    data gets is no more than the whole needs. The buffers on the way there differ,
    since each growth moves the held bytes at another moment; only their queues
    agree. `append_granted_of_cut` says that memory agrees too: the largest of the
    requests made for the pieces is the one made for the whole. -/

namespace EventLoop

/-! ## The least power of two -/

/-- The least power of two from a number on. -/
def powerFrom (n : Nat) : Nat := 2 ^ Nat.clog 2 n

theorem powerFrom_isPowerOfTwo (n : Nat) : (powerFrom n).isPowerOfTwo := ⟨Nat.clog 2 n, rfl⟩

/-- The least power from a number on is below exactly the powers that are not below it. -/
theorem powerFrom_le_iff {n p : Nat} (hp : p.isPowerOfTwo) : powerFrom n ≤ p ↔ n ≤ p := by
  obtain ⟨k, rfl⟩ := hp
  rw [powerFrom, Nat.pow_le_pow_iff_right Nat.one_lt_two, Nat.clog_le_iff_le_pow Nat.one_lt_two]

theorem le_powerFrom (n : Nat) : n ≤ powerFrom n :=
  (powerFrom_le_iff (powerFrom_isPowerOfTwo n)).mp (Nat.le_refl _)

/-- A larger need takes no smaller power. -/
theorem powerFrom_mono {m n : Nat} (h : m ≤ n) : powerFrom m ≤ powerFrom n :=
  (powerFrom_le_iff (powerFrom_isPowerOfTwo n)).mpr (Nat.le_trans h (le_powerFrom n))

/-- Among the powers of two from a number on there is a least one. -/
theorem isLeast_powerFrom (n : Nat) : IsLeast {p | p.isPowerOfTwo ∧ n ≤ p} (powerFrom n) := by
  constructor
  · exact ⟨powerFrom_isPowerOfTwo n, le_powerFrom n⟩
  · rintro p ⟨hp, hn⟩
    exact (powerFrom_le_iff hp).mpr hn

/-- The power that growth asks for. -/
theorem nextPowerOfTwo?_eq (n : Nat) :
    nextPowerOfTwo? n = if powerFrom n ≤ maxWord then some (powerFrom n) else none := by
  have hpower : (if n ≤ 1 then 1 else 1 <<< ((n - 1).log2 + 1)) = powerFrom n := by
    by_cases hone : n ≤ 1
    · rw [if_pos hone, powerFrom, Nat.clog_of_right_le_one hone, Nat.pow_zero]
    · rw [if_neg hone, Nat.one_shiftLeft, powerFrom]
      congr 1
      refine eq_of_forall_ge_iff ?_
      intro k
      rw [Nat.clog_le_iff_le_pow Nat.one_lt_two, Nat.add_one_le_iff, Nat.log2_lt (by omega)]
      omega
  rw [nextPowerOfTwo?, hpower]

/-- Memory affords room for a number of bytes: the power it takes is a word, and granted. -/
def Allocator.Affords (memory : Allocator) (wanted : Nat) : Prop :=
  powerFrom wanted ≤ maxWord ∧ (memory.request (powerFrom wanted)).1 = true

/-- What is granted after a request was granted before it. -/
theorem Allocator.request_of_later {memory : Allocator} {earlier size : Nat}
    (h : ((memory.request earlier).2.request size).1 = true) : (memory.request size).1 = true := by
  grind [request]

/-! ## Appending to queues -/

namespace Queue

/-- The queue after an append for which there is memory. -/
def appended (allowGrow : Bool) (q : Queue) (data : Bytes) : Queue :=
  if allowGrow then ⟨q.contents ++ data,
    max q.capacity (powerFrom (q.contents.length + data.length))⟩
  else ⟨q.contents ++ data.take q.free, q.capacity⟩

/-- Appending in two pieces comes to the same queue as appending at once. -/
theorem appended_append (allowGrow : Bool) (q : Queue) (data rest : Bytes) :
    (q.appended allowGrow data).appended allowGrow rest = q.appended allowGrow (data ++ rest) := by
  cases allowGrow with
  | true =>
      have hmono : powerFrom (q.contents.length + data.length)
          ≤ powerFrom (q.contents.length + data.length + rest.length) :=
            powerFrom_mono (Nat.le_add_right _ _)
      simp [appended, ← Nat.add_assoc, Nat.max_assoc, Nat.max_eq_right hmono]
  | false =>
      have hfree : (q.appended false data).free = q.free - data.length := by
        simp only [appended, free, Bool.false_eq_true, if_false, List.length_append,
          List.length_take]
        omega
      rw [appended, hfree]
      simp [appended, List.take_append]

/-- Appending nothing changes nothing, in a queue that keeps within its capacity. -/
theorem appended_nil {allowGrow : Bool} {q : Queue} (hpow : q.capacity.isPowerOfTwo)
    (hfit : q.contents.length ≤ q.capacity) : q.appended allowGrow [] = q := by
  have hpower : powerFrom q.contents.length ≤ q.capacity := (powerFrom_le_iff hpow).mpr hfit
  cases allowGrow with
  | true => simp [appended, Nat.max_eq_left hpower]
  | false => simp [appended]

end Queue

namespace RingBuffer

/-- The memory for an append was granted, or there was no need of any. -/
def Growth.granted : Growth → Bool
  | refused _ _ => false
  | _ => true

/-- What appends in a row come to. -/
structure AppendedAll where
  count : Nat
  buffer : RingBuffer
  growths : List Growth
  deriving DecidableEq, Repr

/-- Append pieces, one after the other. -/
def appendAll (allowGrow : Bool) : List Bytes → RingBuffer → Allocator → AppendedAll
  | [], b, _ => ⟨0, b, []⟩
  | piece :: pieces, b, memory =>
    let one := b.append piece allowGrow memory
    let rest := appendAll allowGrow pieces one.buffer one.memory
    ⟨one.count + rest.count, rest.buffer, one.growth :: rest.growths⟩

variable {b : RingBuffer} {data rest : Bytes} {allowGrow : Bool} {memory : Allocator} {σ : Type}

/-! ## When memory is granted -/

theorem grantedCapacity_of_affords {wanted : Nat} (h : memory.Affords wanted) :
    grantedCapacity wanted memory = some (powerFrom wanted) := by
  rw [grantedCapacity, nextPowerOfTwo?_eq, if_pos h.1, Option.filter_some, if_pos h.2]

theorem grantedCapacity_of_not_affords {wanted : Nat} (h : ¬ memory.Affords wanted) :
    grantedCapacity wanted memory = none := by
  rw [grantedCapacity, nextPowerOfTwo?_eq]
  by_cases hword : powerFrom wanted ≤ maxWord
  · rw [if_pos hword, Option.filter_some, if_neg (fun hgranted => h ⟨hword, hgranted⟩)]
  · rw [if_neg hword, Option.filter_none]

/-- An append gets its memory exactly when it needs none or memory affords it. -/
theorem append_granted_iff : (b.append data true memory).growth.granted = true
    ↔ (b.available < data.length → memory.Affords (b.length + data.length)) := by
  by_cases hcut : b.available < data.length
  · by_cases hafford : memory.Affords (b.length + data.length)
    · rw [append_eq_grown hcut (grantedCapacity_of_affords hafford)]
      simp [Growth.granted, hafford]
    · obtain ⟨cause, happend⟩ := append_eq_refused hcut (grantedCapacity_of_not_affords hafford)
      rw [happend]
      simp [Growth.granted, hafford, hcut]
  · rw [append_of_fits data true memory (by omega)]
    simp [Growth.granted, hcut]

/-- There is need of growth exactly where the least power of two exceeds the storage. -/
theorem crowded_iff (h : b.WellFormed) (data : Bytes) :
    b.available < data.length ↔ b.capacity < powerFrom (b.length + data.length) := by
  have hlength := h.length_le
  have hroom : b.available = b.capacity - b.length := rfl
  have hfits := powerFrom_le_iff (n := b.length + data.length) h.powerOfTwo
  omega

/-- An append that must not grow asks for no memory. -/
theorem append_granted_of_fixed : (b.append data false memory).growth.granted = true := by
  by_cases hfit : data.length ≤ b.available
  · rw [append_of_fits data false memory hfit]
    rfl
  · rw [append_of_cut data memory (by omega)]
    rfl

/-! ## One append -/

/-- An append takes as many bytes as there are more in the buffer. -/
theorem length_append (h : b.WellFormed) : (b.append data allowGrow memory).buffer.toList.length
    = b.toList.length + (b.append data allowGrow memory).count := by
  have hstep := (append_refines (σ := Unit) h data allowGrow memory).1
  change (b.append data allowGrow memory).buffer.queue.contents.length = b.queue.contents.length + _
  generalize (b.append data allowGrow memory).buffer.queue = q at hstep
  generalize (b.append data allowGrow memory).count = count at hstep
  cases hstep with
  | appendFits hfit => exact List.length_append
  | appendCut hcut => rw [List.length_append, List.length_take, Nat.min_eq_left (Nat.le_of_lt hcut)]
  | appendGrows hcut hgrant => exact List.length_append
  | appendRefused hcut hrefuse => rfl

/-- An append that gets its memory does to the queue what it says, in either mode. -/
theorem queue_append (h : b.WellFormed)
    (hgranted : (b.append data allowGrow memory).growth.granted = true) :
    (b.append data allowGrow memory).buffer.queue = b.queue.appended allowGrow data := by
  have hstep := (append_refines (σ := Unit) h data allowGrow memory).1
  have hfree := free_queue h
  have hheld : b.queue.contents.length = b.length := length_toList h
  have hcapacity : b.queue.capacity = b.capacity := rfl
  have hcrowded := crowded_iff h data
  have hafford (hallow : allowGrow = true) (hcut : b.available < data.length) :
      memory.Affords (b.length + data.length) := by
    rw [hallow, append_granted_iff] at hgranted
    exact hgranted hcut
  generalize (b.append data allowGrow memory).buffer.queue = q at hstep
  generalize (b.append data allowGrow memory).count = count at hstep
  -- the step of the queue is decided already, so only its four outcomes are left
  cases hstep with
  | appendFits hfit =>
      cases allowGrow with
      | true => rw [Queue.appended, if_pos rfl, hheld, Nat.max_eq_left (by omega)]
      | false => rw [Queue.appended, if_neg Bool.false_ne_true, List.take_of_length_le hfit]
  | appendCut hcut => rw [Queue.appended, if_neg Bool.false_ne_true]
  | appendGrows hcut hgrant =>
      rw [hheld, grantedCapacity_of_affords (hafford rfl (by omega))] at hgrant
      obtain rfl := Option.some.inj hgrant
      rw [Queue.appended, if_pos rfl, hheld, Nat.max_eq_right (by omega)]
  | appendRefused hcut hrefuse =>
      rw [hheld, grantedCapacity_of_affords (hafford rfl (by omega))] at hrefuse
      cases hrefuse

/-- A growing append ends with the larger of the old capacity and the least power that fits. -/
theorem capacity_append (h : b.WellFormed)
    (hgranted : (b.append data true memory).growth.granted = true) :
    (b.append data true memory).buffer.capacity = max b.capacity
      (powerFrom (b.length + data.length)) := by
  have hqueue := congrArg Queue.capacity (queue_append h hgranted)
  rw [← length_toList h]
  exact hqueue

/-! ## Pieces -/

/-- Memory is left as it was, or with one request granted. -/
theorem memory_append (b : RingBuffer) (data : Bytes) (memory : Allocator) :
    (b.append data true memory).memory = memory
      ∨ ∃ size, (b.append data true memory).memory = (memory.request size).2 := by
  by_cases hcut : b.available < data.length
  · by_cases hafford : memory.Affords (b.length + data.length)
    · rw [append_eq_grown hcut (grantedCapacity_of_affords hafford)]
      exact .inr ⟨_, rfl⟩
    · obtain ⟨cause, happend⟩ := append_eq_refused hcut (grantedCapacity_of_not_affords hafford)
      rw [happend]
      exact .inl rfl
  · rw [append_of_fits data true memory (by omega)]
    exact .inl rfl

/-- What memory affords after an append it afforded before. -/
theorem affords_of_append {wanted : Nat} (h : (b.append data true memory).memory.Affords wanted) :
    memory.Affords wanted := by
  obtain ⟨hword, hgranted⟩ := h
  refine ⟨hword, ?_⟩
  obtain hsame | ⟨size, hlater⟩ := memory_append b data memory
  · rw [hsame] at hgranted
    exact hgranted
  · rw [hlater] at hgranted
    exact Allocator.request_of_later hgranted

/-- Where memory is granted to two pieces, it is granted to the whole, which asks for what the
    larger of their requests asked for. -/
theorem append_granted_of_cut (h : b.WellFormed)
    (hfront : (b.append data true memory).growth.granted = true)
    (hback : ((b.append data true memory).buffer.append rest true
      (b.append data true memory).memory).growth.granted = true) :
    (b.append (data ++ rest) true memory).growth.granted = true := by
  have hnext := (append_refines (σ := Unit) h data true memory).2
  have hlength : (b.append data true memory).buffer.length = b.length + data.length := by
    have hcontents := congrArg (fun q => q.contents.length) (queue_append h hfront)
    rw [← length_toList hnext, ← length_toList h]
    exact hcontents.trans List.length_append
  rw [append_granted_iff, crowded_iff hnext, capacity_append h hfront, hlength,
    Nat.add_assoc] at hback
  rw [append_granted_iff, crowded_iff h] at hfront
  rw [append_granted_iff, crowded_iff h, List.length_append]
  intro hcrowded
  by_cases hlarger :
    powerFrom (b.length + data.length) < powerFrom (b.length + (data.length + rest.length))
  · exact affords_of_append (hback (Nat.max_lt.mpr ⟨hcrowded, hlarger⟩))
  · -- the storage that the front got is what the whole asks for
    have hsame : powerFrom (b.length + (data.length + rest.length))
        = powerFrom (b.length + data.length) :=
      Nat.le_antisymm (Nat.not_lt.mp hlarger) (powerFrom_mono (by omega))
    rw [hsame] at hcrowded
    rw [Allocator.Affords, hsame]
    exact hfront hcrowded

/-- Pieces that are appended one after the other come to what the whole comes to. -/
theorem appendAll_whole (h : b.WellFormed) (pieces : List Bytes)
    (hgranted : allowGrow = true → ∀ growth ∈ (appendAll allowGrow pieces b memory).growths,
      growth.granted = true) :
    (b.append pieces.flatten allowGrow memory).growth.granted = true
      ∧ (appendAll allowGrow pieces b memory).buffer.queue = b.queue.appended allowGrow
        pieces.flatten
      ∧ (appendAll allowGrow pieces b memory).buffer.toList.length
          = b.toList.length + (appendAll allowGrow pieces b memory).count := by
  -- on the pieces: the queue after the first piece is where the others begin
  induction pieces generalizing b memory with
  | nil =>
      refine ⟨rfl, ?_, rfl⟩
      refine (Queue.appended_nil h.powerOfTwo ?_).symm
      exact Nat.le_trans (Nat.le_of_eq (length_toList h)) h.length_le
  | cons piece pieces ih =>
      have hnext := (append_refines (σ := Unit) h piece allowGrow memory).2
      have hfirst : (b.append piece allowGrow memory).growth.granted = true := by
        cases allowGrow with
        | true => exact hgranted rfl _ List.mem_cons_self
        | false => exact append_granted_of_fixed
      have hothers : allowGrow = true →
          ∀ growth ∈ (appendAll allowGrow pieces (b.append piece allowGrow memory).buffer
          (b.append piece allowGrow memory).memory).growths, growth.granted = true :=
        fun hallow growth hgrowth => hgranted hallow growth (List.mem_cons_of_mem _ hgrowth)
      obtain ⟨hrest, hqueue, hlength⟩ := ih hnext hothers
      rw [List.flatten_cons, appendAll]
      refine ⟨?_, ?_, ?_⟩
      · cases allowGrow with
        | true => exact append_granted_of_cut h hfirst hrest
        | false => exact append_granted_of_fixed
      · rw [← Queue.appended_append, ← queue_append h hfirst]
        exact hqueue
      · dsimp only
        rw [hlength, length_append h, Nat.add_assoc]

/-! ## What leaves the size of the storage alone -/

@[simp] theorem capacity_commit (b : RingBuffer) (data : Bytes) :
    (b.commit data).capacity = b.capacity :=
  size_overwrite _ _ _

theorem capacity_fillRuns (t : Transport σ) (runs total : Nat) (b : RingBuffer) (s : σ) :
    (fillRuns t runs total b s).2.1.capacity = b.capacity := by
  -- on the runs, each of which commits to the storage as it is
  induction runs generalizing total b s with
  | zero => rfl
  | succ runs ih =>
      rw [fillRuns]
      by_cases hroom : b.available = 0
      · rw [if_pos hroom]
      · rw [if_neg hroom]
        rcases t.recv b.freeRun s with ⟨e | ⟨data⟩ | _ | _, s'⟩
        · rfl
        · dsimp only
          split
          · exact capacity_commit b data
          · rw [ih, capacity_commit]
        · rfl
        · rfl

theorem capacity_flushTo (t : Transport σ) (b : RingBuffer) (s : σ) :
    (b.flushTo t s).2.1.capacity = b.capacity := by
  cases hempty : b.isEmpty with
  | true => rw [flushTo_of_empty t s hempty]
  | false =>
      obtain ⟨r, s', -, hflush⟩ := flushTo_of_nonempty t s hempty
      rw [hflush]
      cases r with
      | ok sent => exact capacity_consume b sent
      | error e => rfl

/-- No operation but a growing append changes the capacity. -/
theorem capacity_perform (b : RingBuffer) (op : Operation σ)
    (hop : ∀ data memory, op ≠ .append data true memory) :
    (b.perform op).2.capacity = b.capacity := by
  cases op with
  | append data allowGrow memory =>
      cases allowGrow with
      | true => exact absurd rfl (hop data memory)
      | false =>
          by_cases hfit : data.length ≤ b.available
          · rw [perform, append_of_fits data false memory hfit]
            exact capacity_store b data
          · rw [perform, append_of_cut data memory (by omega)]
            exact capacity_store b data
  | consume count => exact capacity_consume b count
  | readInto destination =>
      change (b.read destination.length).2.capacity = b.capacity
      rw [read_buffer, capacity_consume]
  | clear => rfl
  | flush t s => exact capacity_flushTo t b s
  | fill t s => exact capacity_fillRuns t 2 0 b s

/-- No operation makes the capacity smaller. -/
theorem capacity_le_perform (b : RingBuffer) (op : Operation σ) :
    b.capacity ≤ (b.perform op).2.capacity := by
  by_cases hop : ∀ data memory, op ≠ .append data true memory
  · rw [capacity_perform b op hop]
  · push Not at hop
    obtain ⟨data, memory, rfl⟩ := hop
    rw [perform]
    dsimp only
    by_cases hfit : data.length ≤ b.available
    · rw [append_of_fits data true memory hfit]
      exact Nat.le_of_eq (capacity_store b data).symm
    · have hcut : b.available < data.length := by omega
      by_cases hafford : memory.Affords (b.length + data.length)
      · rw [append_eq_grown hcut (grantedCapacity_of_affords hafford)]
        dsimp only
        rw [capacity_store, capacity_movedTo]
        have := le_powerFrom (b.length + data.length)
        have : b.available = b.capacity - b.length := rfl
        omega
      · obtain ⟨cause, happend⟩ := append_eq_refused hcut (grantedCapacity_of_not_affords hafford)
        rw [happend]

theorem capacity_le_performAll (b : RingBuffer) (ops : List (Operation σ)) :
    b.capacity ≤ (b.performAll ops).2.capacity := by
  induction ops generalizing b with
  | nil => exact Nat.le_refl _
  | cons op ops ih => exact Nat.le_trans (capacity_le_perform b op) (ih (b.perform op).2)

/-! ## Growth -/

/-- **Growth is minimal, and the same however data is cut.**  Where memory is granted, an append
    that may grow leaves the storage as large as it was or, where that is too small, as large as
    the least power of two that holds everything. No other operation changes the size of the
    storage, and none makes it smaller. Data that is appended in pieces, one after the other,
    comes to the same count, the same contents and the same storage as data appended at once. -/
theorem growth_minimal (hb : b.Arises) :
    (∀ data memory, (b.append data true memory).growth.granted = true →
      ∃ power, IsLeast {p | p.isPowerOfTwo ∧ b.length + data.length ≤ p} power
        ∧ (b.append data true memory).buffer.capacity = max b.capacity power)
    ∧ (∀ {σ : Type} (op : Operation σ), (∀ data memory, op ≠ .append data true memory) →
        (b.perform op).2.capacity = b.capacity)
    ∧ (∀ {σ : Type} (ops : List (Operation σ)), b.capacity ≤ (b.performAll ops).2.capacity)
    ∧ ∀ pieces allowGrow memory,
        (allowGrow = true → ∀ growth ∈ (appendAll allowGrow pieces b memory).growths,
          growth.granted = true) →
        (b.append pieces.flatten allowGrow memory).growth.granted = true
          ∧ (appendAll allowGrow pieces b memory).count
            = (b.append pieces.flatten allowGrow memory).count
          ∧ (appendAll allowGrow pieces b memory).buffer.toList
              = (b.append pieces.flatten allowGrow memory).buffer.toList
          ∧ (appendAll allowGrow pieces b memory).buffer.capacity
              = (b.append pieces.flatten allowGrow memory).buffer.capacity := by
  have h := hb.wellFormed
  refine ⟨?_, fun op => capacity_perform b op, fun ops => capacity_le_performAll b ops, ?_⟩
  · intro data memory hgranted
    exact ⟨powerFrom (b.length + data.length), isLeast_powerFrom _, capacity_append h hgranted⟩
  · intro pieces allowGrow memory hgranted
    obtain ⟨hwhole, hqueue, hlength⟩ := appendAll_whole h pieces hgranted
    rw [← queue_append h hwhole] at hqueue
    have hcontents : (appendAll allowGrow pieces b memory).buffer.toList
        = (b.append pieces.flatten allowGrow memory).buffer.toList := congrArg Queue.contents hqueue
    refine ⟨hwhole, ?_, hcontents, congrArg Queue.capacity hqueue⟩
    rw [hcontents, length_append h] at hlength
    exact Nat.add_left_cancel hlength.symm

/-- Six bytes are held of eight, at both ends of the storage. Eleven more, in pieces that grow
    it twice, come to what they come to at once; and so do those two that fit. -/
theorem growth_minimal_straddling :
    let pieces : List Bytes := [[10], [], [11, 12], [13, 14, 15, 16, 17, 18, 19, 20]]
    let grown := appendAll true pieces Layouts.straddling .plentiful
    let fixed := appendAll false pieces Layouts.straddling .plentiful
    Layouts.straddling.Arises
      ∧ (∃ power, IsLeast {p | p.isPowerOfTwo ∧ 6 + 3 ≤ p} power
        ∧ (Layouts.straddling.append [10, 11, 12] true .plentiful).buffer.capacity = max 8 power)
      ∧ grown.growths = [.unchanged, .unchanged, .grown 8 16, .grown 16 32]
      ∧ grown.buffer.toList
        = (Layouts.straddling.append pieces.flatten true .plentiful).buffer.toList
      ∧ grown.buffer.capacity
        = (Layouts.straddling.append pieces.flatten true .plentiful).buffer.capacity
      ∧ fixed.count = 2 ∧ fixed.count
        = (Layouts.straddling.append pieces.flatten false .plentiful).count := by
  intro pieces grown fixed
  obtain ⟨hminimal, -, -, hcut⟩ := growth_minimal Layouts.straddling_arises
  obtain ⟨-, -, hcontents, hcapacity⟩ := hcut pieces true .plentiful (fun _ => by decide)
  obtain ⟨-, hcount, -, -⟩ := hcut pieces false .plentiful (fun h => by cases h)
  exact ⟨Layouts.straddling_arises, hminimal [10, 11, 12] .plentiful (by decide), by decide,
    hcontents, hcapacity, by decide, hcount⟩

end RingBuffer

end EventLoop
