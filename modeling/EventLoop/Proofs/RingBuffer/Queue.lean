import EventLoop.Proofs.RingBuffer.Transfers
import EventLoop.Proofs.Transport.Contract

/-! # Ring buffers refine byte queues

    A byte queue is a list of bytes and a capacity; it knows nothing of offsets
    and wrapping. This file states what each operation does to a queue
    (`Queue.Step`), runs operations on ring buffers (`performAll`), and ties the
    two together:

    * `perform_refines` — one operation on a well-formed buffer is a step of the
      queue it stands for, with the same answer;
    * `performAll_refines` — so is every sequence of operations on a new buffer,
      over any transports that keep their contract, however often memory is
      refused on the way.

    An operation comes with the surroundings it meets: an append with the memory
    there is, a transfer with the transport and its state. -/

namespace EventLoop

variable {σ : Type}

/-- Bytes in order, and how many there may be. -/
structure Queue where
  contents : Bytes
  capacity : Nat
  deriving DecidableEq, Repr

/-- An operation on a buffer, with the surroundings it meets. -/
inductive Operation (σ : Type) where
  | append (data : Bytes) (allowGrow : Bool) (memory : Allocator)
  | consume (count : Nat)
  | readInto (destination : Bytes)
  | clear
  | flush (t : Transport σ) (s : σ)
  | fill (t : Transport σ) (s : σ)

/-- What an operation answers, and how it leaves a transport. -/
inductive Answer (σ : Type) where
  | count (n : Nat)
  | copied (n : Nat) (destination : Bytes)
  | done
  | flushed (r : Except Error Nat) (s : σ)
  | filled (r : Except Error Fill) (s : σ)

/-- The transports met by an operation keep their contract. -/
def Operation.Honest : Operation σ → Prop
  | .flush t _ | .fill t _ => t.Honest
  | _ => True

/-! ## Queues -/

namespace Queue

/-- Bytes for which there is room. -/
def free (q : Queue) : Nat := q.capacity - q.contents.length

/-- What an operation does to a queue and what it answers. -/
inductive Step : Queue → Operation σ → Answer σ → Queue → Prop where
  /-- Data for which there is room is added at the back. -/
  | appendFits {q : Queue} {data : Bytes} {allowGrow : Bool} {memory : Allocator}
      (hfit : data.length ≤ q.free) :
      Step q (.append data allowGrow memory) (.count data.length) ⟨q.contents ++ data, q.capacity⟩
  /-- Without growth as much is added as there is room for. -/
  | appendCut {q : Queue} {data : Bytes} {memory : Allocator} (hcut : q.free < data.length) :
      Step q (.append data false memory) (.count q.free)
        ⟨q.contents ++ data.take q.free, q.capacity⟩
  /-- With growth everything is added. -/
  | appendGrows {q : Queue} {data : Bytes} {memory : Allocator} {size : Nat}
      (hcut : q.free < data.length)
      (hgrant : RingBuffer.grantedCapacity (q.contents.length + data.length) memory = some size) :
      Step q (.append data true memory) (.count data.length) ⟨q.contents ++ data, size⟩
  /-- With growth refused nothing is added. -/
  | appendRefused {q : Queue} {data : Bytes} {memory : Allocator} (hcut : q.free < data.length)
      (hrefuse : RingBuffer.grantedCapacity (q.contents.length + data.length) memory = none) :
      Step q (.append data true memory) (.count 0) q
  | consume {q : Queue} (count : Nat) :
      Step q (.consume count) (.count (min count q.contents.length))
        ⟨q.contents.drop count, q.capacity⟩
  /-- The front is copied over the front of the destination. -/
  | readInto {q : Queue} (destination : Bytes) :
      Step q (.readInto destination)
        (.copied (min destination.length q.contents.length)
          (q.contents.take destination.length
            ++ destination.drop (min destination.length q.contents.length)))
        ⟨q.contents.drop destination.length, q.capacity⟩
  | clear {q : Queue} : Step q .clear .done ⟨[], q.capacity⟩
  /-- An empty queue makes no call. -/
  | flushEmpty {q : Queue} {t : Transport σ} {s : σ} (hempty : q.contents = []) :
      Step q (.flush t s) (.flushed (.ok 0) s) q
  /-- The whole queue is offered, and the prefix that was taken is dropped. -/
  | flushTaken {q : Queue} {t : Transport σ} {s s' : σ} {n : Nat} (hne : q.contents ≠ [])
      (hoffer : Offered t q.contents s (.ok n, s')) (hle : n ≤ q.contents.length) :
      Step q (.flush t s) (.flushed (.ok n) s') ⟨q.contents.drop n, q.capacity⟩
  | flushFailed {q : Queue} {t : Transport σ} {s s' : σ} {e : Error} (hne : q.contents ≠ [])
      (hoffer : Offered t q.contents s (.error e, s')) :
      Step q (.flush t s) (.flushed (.error e) s') q
  /-- What the transport produced is added at the back. -/
  | fill {q : Queue} {t : Transport σ} {s s' : σ} {data : Bytes} {r : Except Error Fill}
      (hrecv : Receives t 0 q.free s data r s') :
      Step q (.fill t s) (.filled r s') ⟨q.contents ++ data, q.capacity⟩

/-- A sequence of operations, with its answers. -/
inductive Run : Queue → List (Operation σ) → List (Answer σ) → Queue → Prop where
  | nil {q : Queue} : Run q [] [] q
  | cons {q q' q'' : Queue} {op : Operation σ} {ops : List (Operation σ)} {a : Answer σ}
      {as : List (Answer σ)} (hstep : Step q op a q') (hrest : Run q' ops as q'') :
      Run q (op :: ops) (a :: as) q''

end Queue

/-! ## Buffers -/

namespace RingBuffer

/-- Do an operation. -/
def perform (b : RingBuffer) : Operation σ → Answer σ × RingBuffer
  | .append data allowGrow memory =>
    (.count (b.append data allowGrow memory).count, (b.append data allowGrow memory).buffer)
  | .consume count => (.count (b.consume count).1, (b.consume count).2)
  | .readInto destination =>
    (.copied (b.readInto destination).1 (b.readInto destination).2.1, (b.readInto destination).2.2)
  | .clear => (.done, b.clear)
  | .flush t s => (.flushed (b.flushTo t s).1 (b.flushTo t s).2.2, (b.flushTo t s).2.1)
  | .fill t s => (.filled (b.fillFrom t s).1 (b.fillFrom t s).2.2, (b.fillFrom t s).2.1)

/-- Do operations in order. -/
def performAll (b : RingBuffer) : List (Operation σ) → List (Answer σ) × RingBuffer
  | [] => ([], b)
  | op :: ops =>
    ((b.perform op).1 :: ((b.perform op).2.performAll ops).1, ((b.perform op).2.performAll ops).2)

/-- The queue that a buffer stands for. -/
def queue (b : RingBuffer) : Queue := ⟨b.toList, b.capacity⟩

variable {b : RingBuffer}

theorem free_queue (h : b.WellFormed) : b.queue.free = b.available := (available_eq h).symm

/-- Storing appends what there is room for. -/
theorem queue_store (h : b.WellFormed) (data : Bytes) :
    (b.store data).queue = ⟨b.toList ++ data.take b.available, b.capacity⟩ := by
  rw [queue, toList_store h, capacity_store]

theorem queue_consume (h : b.WellFormed) (count : Nat) :
    (b.consume count).2.queue = ⟨b.toList.drop count, b.capacity⟩ := by
  rw [queue, toList_consume h, capacity_consume]

theorem queue_read (h : b.WellFormed) (room : Nat) :
    (b.read room).2.queue = ⟨b.toList.drop room, b.capacity⟩ := by
  rw [queue, toList_read h, read_buffer, capacity_consume]

theorem queue_clear (h : b.WellFormed) : b.clear.queue = ⟨[], b.capacity⟩ := by
  rw [queue, toList_clear h]
  rfl

/-- An append does to the buffer what it does to the queue. -/
theorem append_refines (h : b.WellFormed) (data : Bytes) (allowGrow : Bool) (memory : Allocator) :
    Queue.Step (σ := σ) b.queue (.append data allowGrow memory)
        (.count (b.append data allowGrow memory).count)
          (b.append data allowGrow memory).buffer.queue
      ∧ (b.append data allowGrow memory).buffer.WellFormed := by
  have hfree := free_queue h
  have hlist := length_toList h
  -- whether it fits, is cut, or grows, and then with memory or without
  by_cases hfit : data.length ≤ b.available
  · rw [append_of_fits data allowGrow memory hfit]
    refine ⟨?_, store_wellFormed h data⟩
    show Queue.Step b.queue _ (.count data.length) (b.store data).queue
    rw [queue_store h, List.take_of_length_le hfit]
    exact .appendFits (by omega)
  · cases allowGrow with
    | false =>
        rw [append_of_cut data memory (by omega)]
        refine ⟨?_, store_wellFormed h data⟩
        show Queue.Step b.queue _ (.count b.available) (b.store data).queue
        rw [queue_store h, ← hfree]
        exact .appendCut (by omega)
    | true =>
        cases hgrant : grantedCapacity (b.length + data.length) memory with
        | none =>
            obtain ⟨hcount, hbuffer⟩ := append_of_refused (by omega) hgrant
            rw [hcount, hbuffer]
            refine ⟨.appendRefused (by omega) ?_, h⟩
            rw [show b.queue.contents.length = b.length from hlist]
            exact hgrant
        | some size =>
            obtain ⟨hcount, hbuffer⟩ := append_of_granted (by omega) hgrant
            obtain ⟨hlarge, hpow⟩ := grantedCapacity_spec hgrant
            have hmoved : (b.movedTo size).WellFormed := movedTo_wellFormed hpow (by omega)
            have hroom : data.length ≤ (b.movedTo size).available := by
              show data.length ≤ (b.movedTo size).capacity - (b.length - 0)
              rw [capacity_movedTo]
              omega
            rw [hcount, hbuffer]
            refine ⟨?_, store_wellFormed hmoved data⟩
            rw [queue_store hmoved, capacity_movedTo, toList_movedTo h hpow (by omega),
              List.take_of_length_le hroom]
            refine .appendGrows (by omega) ?_
            rw [show b.queue.contents.length = b.length from hlist]
            exact hgrant

/-- A read into a destination does to the buffer what it does to the queue. -/
theorem readInto_refines (h : b.WellFormed) (destination : Bytes) :
    Queue.Step (σ := σ) b.queue (.readInto destination)
        (.copied (b.readInto destination).1 (b.readInto destination).2.1)
        (b.readInto destination).2.2.queue
      ∧ (b.readInto destination).2.2.WellFormed := by
  have hdata : (b.readInto destination).2.1
      = (b.read destination.length).1 ++ destination.drop (b.read destination.length).1.length :=
        rfl
  have hcount : (b.readInto destination).1 = (b.read destination.length).1.length := rfl
  have hbuffer : (b.readInto destination).2.2 = (b.read destination.length).2 := rfl
  rw [hcount, hdata, hbuffer, queue_read h, read_data, List.length_take]
  exact ⟨.readInto destination, read_wellFormed h _⟩

/-- An honest transport takes no more than it is offered. -/
theorem Offered.le {t : Transport σ} (ht : t.Honest) {data : Bytes} {s s' : σ} {n : Nat}
    (h : Offered t data s (.ok n, s')) : n ≤ data.length := by
  generalize hout : (Except.ok n, s') = out at h
  cases h with
  | whole => exact ht.send_le _ _ _ _ hout.symm
  | split first second _ happend =>
      rw [← happend, List.length_append]
      exact ht.sendPair_le _ _ _ _ _ hout.symm

/-- A flush does to the buffer what it does to the queue, with any honest transport. -/
theorem flush_refines (h : b.WellFormed) {t : Transport σ} (ht : t.Honest) (s : σ) :
    Queue.Step b.queue (.flush t s) (.flushed (b.flushTo t s).1 (b.flushTo t s).2.2)
        (b.flushTo t s).2.1.queue
      ∧ (b.flushTo t s).2.1.WellFormed := by
  have hempty := isEmpty_eq h
  cases hb : b.isEmpty with
  | true =>
      rw [flushTo_of_empty t s hb]
      refine ⟨.flushEmpty ?_, h⟩
      rw [hb] at hempty
      exact List.isEmpty_iff.mp hempty.symm
  | false =>
      have hne : b.queue.contents ≠ [] := by
        rw [hb] at hempty
        exact List.isEmpty_eq_false_iff.mp hempty.symm
      obtain ⟨r, s', hoffer, hflush⟩ := flushTo_of_nonempty t s hb
      rw [hflush]
      cases r with
      | error e => exact ⟨.flushFailed hne hoffer, h⟩
      | ok n =>
          have hle := Offered.le ht hoffer
          refine ⟨?_, consume_wellFormed h n⟩
          show Queue.Step b.queue _ (.flushed (.ok (b.consume n).1) s') (b.consume n).2.queue
          rw [queue_consume h, consume_count h, Nat.min_eq_left hle]
          exact .flushTaken hne hoffer hle

/-- **One operation on a buffer is a step of its queue.** -/
theorem perform_refines (h : b.WellFormed) (op : Operation σ) (hop : op.Honest) :
    Queue.Step b.queue op (b.perform op).1 (b.perform op).2.queue
    ∧ (b.perform op).2.WellFormed := by
  cases op with
  | append data allowGrow memory => exact append_refines h data allowGrow memory
  | consume count =>
      refine ⟨?_, consume_wellFormed h count⟩
      show Queue.Step b.queue _ (.count (b.consume count).1) (b.consume count).2.queue
      rw [queue_consume h, consume_count h]
      exact .consume count
  | readInto destination => exact readInto_refines h destination
  | clear =>
      refine ⟨?_, clear_wellFormed h⟩
      show Queue.Step b.queue _ .done b.clear.queue
      rw [queue_clear h]
      exact .clear
  | flush t s => exact flush_refines h hop s
  | fill t s =>
      obtain ⟨data, hrecv, hwf, hlist, hcap⟩ := fillFrom_receives hop.fits s h
      refine ⟨?_, hwf⟩
      have hqueue : (b.fillFrom t s).2.1.queue = ⟨b.toList ++ data, b.capacity⟩ := by
        rw [queue, hlist, hcap]
      show Queue.Step b.queue _ (.filled _ _) (b.fillFrom t s).2.1.queue
      rw [hqueue]
      refine .fill ?_
      rw [free_queue h]
      exact hrecv

/-- A run of operations keeps buffer and queue together. -/
theorem performAll_run (ops : List (Operation σ)) (hops : ∀ op ∈ ops, op.Honest)
    (h : b.WellFormed) :
    Queue.Run b.queue ops (b.performAll ops).1 (b.performAll ops).2.queue
      ∧ (b.performAll ops).2.WellFormed := by
  -- on the operations, with one step each
  induction ops generalizing b with
  | nil => exact ⟨.nil, h⟩
  | cons op ops ih =>
      obtain ⟨hstep, hnext⟩ := perform_refines h op (hops op List.mem_cons_self)
      obtain ⟨hrest, hwf⟩ := ih (fun o ho => hops o (List.mem_cons_of_mem _ ho)) hnext
      exact ⟨.cons hstep hrest, hwf⟩

/-- **Ring buffers refine byte queues.**  Whatever is done to a new buffer, its
    answers are those of a queue that was empty at first, its two segments are
    the contents of that queue, and its measures are those of the queue. -/
theorem performAll_refines {size : Nat} {memory : Allocator} (hsize : isPowerOfTwo size = true)
    (hmemory : (memory.request size).1 = true) (ops : List (Operation σ))
    (hops : ∀ op ∈ ops, op.Honest) :
    ∃ start, (create size memory).1 = .ok start ∧
      ∃ q, Queue.Run ⟨[], size⟩ ops (start.performAll ops).1 q
        ∧ (start.performAll ops).2.segments.1 ++ (start.performAll ops).2.segments.2 = q.contents
        ∧ (start.performAll ops).2.capacity = q.capacity
        ∧ (start.performAll ops).2.length = q.contents.length
        ∧ (start.performAll ops).2.available = q.capacity - q.contents.length
        ∧ ((start.performAll ops).2.isEmpty = true ↔ q.contents = [])
        ∧ ((start.performAll ops).2.isFull = true ↔ q.contents.length = q.capacity) := by
  have hpow := isPowerOfTwo_sound hsize
  refine ⟨blank size, by rw [create_eq hsize hmemory], ?_⟩
  obtain ⟨hrun, hwf⟩ := performAll_run ops hops (blank_wellFormed hpow)
  rw [queue, toList_blank hpow, capacity_blank] at hrun
  refine ⟨_, hrun, rfl, rfl, (length_toList hwf).symm, available_eq hwf, ?_, ?_⟩
  · rw [isEmpty_eq hwf, List.isEmpty_iff]
    exact Iff.rfl
  · rw [isFull_eq hwf, beq_iff_eq]
    exact Iff.rfl

/-- Appends that are cut and that grow, reads across the end of the storage, a
    flush in two runs and a fill, on a buffer of four bytes. -/
def wrappingOperations : List (Operation Rehearsal) :=
  let peer : Rehearsal := ⟨some 2, none, [.bytes [8, 9]], .plentiful, []⟩
  [.append [1, 2, 3] false .plentiful, .consume 2, .append [4, 5, 6, 7] false .plentiful,
    .flush Rehearsal.vectored peer, .append [8] false .plentiful, .flush Rehearsal.joining peer,
    .fill Rehearsal.vectored peer, .append [1, 2, 3, 4, 5, 6] true .plentiful,
    .append [1, 2, 3, 4, 5, 6, 7, 8] true ⟨0, 0, 0⟩, .readInto [0, 0, 0], .clear]

theorem wrappingOperations_honest : ∀ op ∈ wrappingOperations, op.Honest := by
  simp only [wrappingOperations, List.forall_mem_cons]
  exact ⟨trivial, trivial, trivial, Rehearsal.vectored_honest, trivial, Rehearsal.joining_honest,
    Rehearsal.vectored_honest, trivial, trivial, trivial, trivial, fun _ h => by cases h⟩

/-- The statement at a run in which the data wraps and the buffer grows. -/
theorem performAll_refines_wrapping :
    isPowerOfTwo 4 = true ∧ (Allocator.plentiful.request 4).1 = true
      ∧ (∀ op ∈ wrappingOperations, op.Honest)
      ∧ ∃ start, (create 4 .plentiful).1 = .ok start ∧
        ∃ q, Queue.Run ⟨[], 4⟩ wrappingOperations (start.performAll wrappingOperations).1 q
          ∧ (start.performAll wrappingOperations).2.segments.1
              ++ (start.performAll wrappingOperations).2.segments.2 = q.contents
          ∧ (start.performAll wrappingOperations).2.capacity = q.capacity
          ∧ (start.performAll wrappingOperations).2.length = q.contents.length
          ∧ (start.performAll wrappingOperations).2.available = q.capacity - q.contents.length
          ∧ ((start.performAll wrappingOperations).2.isEmpty = true ↔ q.contents = [])
          ∧ ((start.performAll wrappingOperations).2.isFull = true
              ↔ q.contents.length = q.capacity) :=
  ⟨by decide, by decide, wrappingOperations_honest,
    performAll_refines (by decide) (by decide) wrappingOperations wrappingOperations_honest⟩

end RingBuffer

end EventLoop
