import EventLoop.Proofs.RingBuffer.Operations

/-! # Transfers between held bytes and a transport

    What a flush and a fill do, said without offsets:

    * a flush offers the whole list of held bytes in one call (`Offered`) and
      drops what was taken;
    * a fill receives into non-empty room, call after call, until the room is
      used up or a call brings less than was asked for (`Receives`), and what
      arrived stands at the back.

    The free space is at most two runs of positions (`freeRuns`), and a run that
    was filled leaves one fewer, so the two calls of a fill are never too few. -/

namespace EventLoop

variable {σ : Type}

/-- One call that offers data to a transport: plainly, or as two runs. -/
inductive Offered (t : Transport σ) (data : Bytes) (s : σ) : Except Error Nat × σ → Prop where
  | whole : Offered t data s (t.send data s)
  | split (first second : Bytes) (hne : second ≠ []) (happend : first ++ second = data) :
      Offered t data s (t.sendPair first second s)

/-- A receive delivers no more than there is room for. This is all that a fill relies on. -/
def Transport.Fits (t : Transport σ) : Prop :=
  ∀ room s data s', 0 < room → t.recv room s = (.ok (.bytes data), s') → data.length ≤ room

/-- What a fill relies on is part of the contract. -/
theorem Transport.Honest.fits {t : Transport σ} (ht : t.Honest) : t.Fits :=
  fun room s data s' _ hrecv => ht.recv_le room s data s' hrecv

/-- What a fill answers that comes to its end with one receive. -/
def Arrival.answer : Arrival → Fill
  | .bytes data => .read data.length
  | .wouldBlock => .wouldBlock
  | .closed => .closed

/-- Receiving into room for some bytes after `total` have arrived: what the
    transport produces, what is reported, and the transport afterwards. -/
inductive Receives (t : Transport σ) : Nat → Nat → σ → Bytes → Except Error Fill → σ → Prop where
  /-- No room is left. -/
  | full {total : Nat} {s : σ} : Receives t total 0 s [] (.ok (.read total)) s
  /-- Fewer bytes arrived than were asked for. -/
  | short {total room run : Nat} {s s' : σ} {data : Bytes} (hpos : 0 < run) (hrun : run ≤ room)
      (hrecv : t.recv run s = (.ok (.bytes data), s')) (hlt : data.length < run) :
      Receives t total room s data (.ok (.read (total + data.length))) s'
  /-- All bytes asked for arrived, so more are asked for. -/
  | more {total room run : Nat} {s s' s'' : σ} {data rest : Bytes} {r : Except Error Fill}
      (hpos : 0 < run) (hrun : run ≤ room) (hrecv : t.recv run s = (.ok (.bytes data), s'))
      (hall : data.length = run)
      (hrest : Receives t (total + data.length) (room - run) s' rest r s'') :
      Receives t total room s (data ++ rest) r s''
  /-- Nothing is there now; bytes that arrived before win. -/
  | wouldBlock {total room run : Nat} {s s' : σ} (hpos : 0 < run) (hrun : run ≤ room)
      (hrecv : t.recv run s = (.ok .wouldBlock, s')) :
      Receives t total room s [] (.ok (if total = 0 then .wouldBlock else .read total)) s'
  /-- The peer sends no more; bytes that arrived before win. -/
  | closed {total room run : Nat} {s s' : σ} (hpos : 0 < run) (hrun : run ≤ room)
      (hrecv : t.recv run s = (.ok .closed, s')) :
      Receives t total room s [] (.ok (if total = 0 then .closed else .read total)) s'
  /-- The call failed; bytes that arrived before win. -/
  | failed {total room run : Nat} {s s' : σ} {e : Error} (hpos : 0 < run) (hrun : run ≤ room)
      (hrecv : t.recv run s = (.error e, s')) :
      Receives t total room s [] (if total = 0 then .error e else .ok (.read total)) s'

namespace RingBuffer

variable {b : RingBuffer}

/-! ## Flushing -/

theorem flushTo_of_empty (t : Transport σ) (s : σ) (h : b.isEmpty = true) :
    b.flushTo t s = (.ok 0, b, s) := by
  rw [flushTo, h]
  rfl

/-- The held bytes are offered in one call, and what was taken is dropped. -/
theorem flushTo_of_nonempty (t : Transport σ) (s : σ) (h : b.isEmpty = false) :
    ∃ r s', Offered t b.toList s (r, s') ∧
      b.flushTo t s = match r with
        | .ok sent => (.ok (b.consume sent).1, (b.consume sent).2, s')
        | .error e => (.error e, b, s') := by
  rcases hcall : (if b.segments.2.isEmpty then t.send b.segments.1 s
    else t.sendPair b.segments.1 b.segments.2 s) with ⟨r, s'⟩
  refine ⟨r, s', ?_, ?_⟩
  · rw [← hcall]
    by_cases hsecond : b.segments.2 = []
    · rw [hsecond, if_pos List.isEmpty_nil,
        show b.segments.1 = b.toList by rw [toList, hsecond, List.append_nil]]
      exact .whole
    · rw [if_neg (by rw [List.isEmpty_iff]; exact hsecond)]
      exact .split _ _ hsecond rfl
  · rw [flushTo, h, if_neg (by simp)]
    simp only [hcall]
    cases r <;> rfl

/-! ## Filling -/

/-- Number of runs of positions that the free space consists of. -/
def freeRuns (b : RingBuffer) : Nat :=
  if b.available = 0 then 0 else if b.freeRun = b.available then 1 else 2

/-- The free space lies behind the held bytes, before them or both. -/
theorem freeRuns_le_two (b : RingBuffer) : b.freeRuns ≤ 2 := by
  rw [freeRuns]
  split
  · exact Nat.zero_le _
  · split
    · exact Nat.le_succ 1
    · exact Nat.le_refl _

theorem freeRun_le (b : RingBuffer) : b.freeRun ≤ b.available := Nat.min_le_left _ _

/-- Where something still fits, the run at the next write is not empty. -/
theorem freeRun_pos (hroom : b.available ≠ 0) : 0 < b.freeRun := by
  have hpos : b.position b.head < b.capacity := Nat.mod_lt _ (by rw [available] at hroom; omega)
  show 0 < min b.available (b.capacity - b.position b.head)
  omega

/-- Bytes received into the free run are stored. -/
theorem commit_eq_store (b : RingBuffer) {data : Bytes} (hfit : data.length ≤ b.freeRun) :
    b.commit data = b.store data := by
  have hroom : data.length ≤ b.available := Nat.le_trans hfit (freeRun_le b)
  have hrun : data.length ≤ b.capacity - b.position b.head :=
    Nat.le_trans hfit (Nat.min_le_right _ _)
  rw [store, Nat.min_eq_left hroom, Nat.min_eq_left hrun, List.take_length, List.drop_length]
  rfl

/-- Storing what fits takes its length from the room there is. -/
theorem available_store (h : b.WellFormed) {data : Bytes} (hfit : data.length ≤ b.available) :
    (b.store data).available = b.available - data.length := by
  show (b.store data).capacity - (b.store data).length = b.capacity - b.length - data.length
  rw [capacity_store, length_store h, Nat.min_eq_left hfit, Nat.sub_sub]

/-- A run that was filled leaves one run fewer. -/
theorem freeRuns_store (h : b.WellFormed) {data : Bytes} (hroom : b.available ≠ 0)
    (hall : data.length = b.freeRun) : (b.store data).freeRuns + 1 ≤ b.freeRuns := by
  have hfit : data.length ≤ b.available := hall ▸ freeRun_le b
  have hfree := available_store h hfit
  rw [freeRuns, freeRuns, if_neg hroom, hfree]
  by_cases hlast : b.freeRun = b.available
  · refine Nat.le_of_eq ?_
    rw [if_pos hlast, if_pos (by omega)]
  · -- the run ended at the end of the storage, so the next one starts at its front
    have htail := h.tail_lt
    have hle := h.tail_le_head
    have hhead := h.head_le
    have havail : b.available = b.capacity - (b.head - b.tail) := rfl
    have hrun : b.freeRun = min b.available (b.capacity - b.position b.head) := rfl
    have hpos : b.position b.head = if b.head < b.capacity then b.head else b.head - b.capacity :=
      position_eq (by omega)
    have hnext : (b.store data).head = b.capacity := by
      show b.head + min data.length b.available = b.capacity
      rw [Nat.min_eq_left hfit]
      split at hpos <;> omega
    have hfront : (b.store data).position (b.store data).head = 0 := by
      show (b.store data).head % (b.store data).capacity = 0
      rw [hnext, capacity_store, Nat.mod_self]
    have hone : (b.store data).freeRun = b.available - data.length := by
      show min (b.store data).available ((b.store data).capacity - (b.store data).position _) = _
      rw [hfront, hfree, capacity_store]
      omega
    refine Nat.le_of_eq ?_
    rw [if_neg hlast, if_neg (by omega), if_pos hone]

/-- Where the first call brings no bytes, what it came to is the answer. -/
theorem fillFrom_of_nothing {t : Transport σ} {s s' : σ} {r : Except Error Arrival}
    (hroom : b.available ≠ 0)
    (hrecv : t.recv b.freeRun s = (r, s')) (hnothing : ∀ data, r ≠ .ok (.bytes data)) :
    b.fillFrom t s = (r.map Arrival.answer, b, s') := by
  rw [fillFrom, fillRuns, if_neg hroom, hrecv]
  cases r with
  | error e => rfl
  | ok arrival =>
      cases arrival with
      | bytes data => exact absurd rfl (hnothing data)
      | wouldBlock => rfl
      | closed => rfl

/-- As many calls as there are free runs fill the free space, unless one of them
    brings less than was asked for. -/
theorem fillRuns_receives {t : Transport σ} (ht : t.Fits) (runs total : Nat) (s : σ)
    (h : b.WellFormed) (hruns : b.freeRuns ≤ runs) :
    ∃ data, Receives t total b.available s data (fillRuns t runs total b s).1
      (fillRuns t runs total b s).2.2
      ∧ (fillRuns t runs total b s).2.1.WellFormed
      ∧ (fillRuns t runs total b s).2.1.toList = b.toList ++ data
      ∧ (fillRuns t runs total b s).2.1.capacity = b.capacity := by
  -- on the number of runs still allowed, which the runs of the free space never exceed
  induction runs generalizing total b s with
  | zero =>
      have hfull : b.available = 0 := by
        rw [freeRuns] at hruns
        split at hruns
        · assumption
        · split at hruns <;> omega
      rw [hfull]
      exact ⟨[], .full, h, (List.append_nil _).symm, rfl⟩
  | succ runs ih =>
      rw [fillRuns]
      by_cases hroom : b.available = 0
      · rw [if_pos hroom, hroom]
        exact ⟨[], .full, h, (List.append_nil _).symm, rfl⟩
      · rw [if_neg hroom]
        have hpos := freeRun_pos hroom
        have hle := freeRun_le b
        rcases hrecv : t.recv b.freeRun s with ⟨r, s'⟩
        cases r with
        | error e => exact ⟨[], .failed hpos hle hrecv, h, (List.append_nil _).symm, rfl⟩
        | ok arrival =>
            cases arrival with
            | wouldBlock => exact ⟨[], .wouldBlock hpos hle hrecv, h, (List.append_nil _).symm, rfl⟩
            | closed => exact ⟨[], .closed hpos hle hrecv, h, (List.append_nil _).symm, rfl⟩
            | bytes data =>
                have hfit : data.length ≤ b.freeRun := ht _ _ _ _ hpos hrecv
                have hall : data.take b.available = data :=
                  List.take_of_length_le (Nat.le_trans hfit hle)
                have hstored := store_wellFormed h data
                have hlist : (b.store data).toList = b.toList ++ data := by
                  rw [toList_store h, hall]
                simp only [commit_eq_store b hfit]
                by_cases hlt : data.length < b.freeRun
                · rw [if_pos hlt]
                  exact ⟨data, .short hpos hle hrecv hlt, hstored, hlist, capacity_store b data⟩
                -- the run was filled: one fewer is left, so the hypothesis takes over
                · rw [if_neg hlt]
                  have heq : data.length = b.freeRun := by omega
                  have hfewer := freeRuns_store h hroom heq
                  obtain ⟨rest, hrest, hwf, hback, hcap⟩ :=
                    ih (total + data.length) s' hstored (by omega)
                  rw [available_store h (by omega), heq, ← heq] at hrest
                  refine ⟨data ++ rest, .more hpos hle hrecv heq ?_, hwf, ?_, ?_⟩
                  · rw [← heq]
                    exact hrest
                  · rw [hback, hlist, List.append_assoc]
                  · rw [hcap, capacity_store]

/-- A fill adds at the back what the transport produced. -/
theorem fillFrom_receives {t : Transport σ} (ht : t.Fits) (s : σ) (h : b.WellFormed) :
    ∃ data, Receives t 0 b.available s data (b.fillFrom t s).1 (b.fillFrom t s).2.2
      ∧ (b.fillFrom t s).2.1.WellFormed
      ∧ (b.fillFrom t s).2.1.toList = b.toList ++ data
      ∧ (b.fillFrom t s).2.1.capacity = b.capacity :=
  fillRuns_receives ht 2 0 s h (freeRuns_le_two b)

end RingBuffer

end EventLoop
