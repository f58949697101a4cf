import EventLoop.Proofs.RingBuffer.Checked
import EventLoop.Proofs.Socket.Resets

/-! # A fill takes all there is room for

    Over a transport that delivers from a stream of bytes, a fill comes to the same
    as one receive into the whole free space would, wherever head and tail stand.

    * `Transport.Streams`: a receive delivers as many of the waiting bytes as there
      is room for, and none only where none wait.
    * `Receives.of_streams`: so do several receives in a row. A run that was filled
      and the run after it take together what one run of their length takes, and
      what is met behind bytes that arrived is not answered.
    * `RingBuffer.Arises`: the buffers that operations lead to.
    * `fillFrom_takes_all`: what follows for a fill of such a buffer.

    A socket is such a transport, with the bytes its stream holds unread. -/

namespace EventLoop

variable {σ : Type} {t : Transport σ} {waiting : σ → Bytes} {room : Nat} {s s' : σ} {data : Bytes}
  {r : Except Error Arrival}

/-! ## Streams of bytes -/

/-- Receives deliver from the bytes that wait: all for which there is room, in order. Where none
    wait, none are delivered. -/
structure Transport.Streams (t : Transport σ) (waiting : σ → Bytes) : Prop where
  delivers : ∀ room s, 0 < room → waiting s ≠ [] →
    ∃ s', t.recv room s = (.ok (.bytes ((waiting s).take room)), s')
      ∧ waiting s' = (waiting s).drop room
  idle : ∀ room s data s', 0 < room → waiting s = [] → t.recv room s ≠ (.ok (.bytes data), s')

namespace Transport.Streams

/-- Bytes that come are the first of those that wait, and the others wait on. -/
theorem of_bytes (ht : t.Streams waiting) (hroom : 0 < room)
    (hrecv : t.recv room s = (.ok (.bytes data), s')) :
    waiting s ≠ [] ∧ data = (waiting s).take room ∧ waiting s' = (waiting s).drop room := by
  have hsome : waiting s ≠ [] := fun hnone => ht.idle room s data s' hroom hnone hrecv
  obtain ⟨s₁, hcall, hleft⟩ := ht.delivers room s hroom hsome
  cases hcall.symm.trans hrecv
  exact ⟨hsome, rfl, hleft⟩

/-- Nothing is brought only where nothing waits. -/
theorem of_nothing (ht : t.Streams waiting) (hroom : 0 < room) (hrecv : t.recv room s = (r, s'))
    (hnothing : ∀ data, r ≠ .ok (.bytes data)) : waiting s = [] := by
  by_contra hsome
  obtain ⟨s₁, hcall, -⟩ := ht.delivers room s hroom hsome
  exact hnothing _ (congrArg Prod.fst (hrecv.symm.trans hcall))

theorem fits (ht : t.Streams waiting) : t.Fits := by
  intro room s data s' hroom hrecv
  obtain ⟨-, rfl, -⟩ := ht.of_bytes hroom hrecv
  exact List.length_take_le room (waiting s)

end Transport.Streams

/-- A call that found nothing to bring: what arrived before stands. -/
theorem stands_of_nothing {queued : Bytes} {total : Nat} {fill : Except Error Fill}
    (hnone : queued = []) (hroom : room ≠ 0) (hfill : total ≠ 0 → fill = .ok (.read total)) :
    [] = queued.take room ∧ (0 < total + 0 ∨ room = 0 → fill = .ok (.read (total + 0))) := by
  refine ⟨by rw [hnone, List.take_nil], fun hsome => hfill ?_⟩
  omega

/-- Several receives in a row bring what one into all their room would. Bytes that arrived, or room
    that is used up, are the answer. -/
theorem Receives.of_streams (ht : t.Streams waiting) {total : Nat} {r : Except Error Fill}
    (h : Receives t total room s data r s') :
    data = (waiting s).take room
      ∧ (0 < total + data.length ∨ room = 0 → r = .ok (.read (total + data.length))) := by
  induction h with
  | full => exact ⟨List.take_zero.symm, fun _ => rfl⟩
  | short hpos hrun hrecv hlt =>
      obtain ⟨-, rfl, -⟩ := ht.of_bytes hpos hrecv
      -- less than was asked for is all that waited
      rw [List.length_take] at hlt
      refine ⟨?_, fun _ => rfl⟩
      rw [List.take_of_length_le (by omega), List.take_of_length_le (by omega)]
  | @more total room run s s₁ _ data rest r hpos hrun hrecv hall _ ih =>
      obtain ⟨-, hdata, hleft⟩ := ht.of_bytes hpos hrecv
      obtain ⟨hrest, hanswer⟩ := ih
      refine ⟨?_, fun _ => ?_⟩
      · calc data ++ rest = (waiting s).take run ++ ((waiting s).drop run).take (room - run) := by
              rw [← hdata, hrest, hleft]
          _ = (waiting s).take (run + (room - run)) := List.take_add.symm
          _ = (waiting s).take room := by rw [Nat.add_sub_of_le hrun]
      · rw [hanswer (.inl (by omega)), List.length_append, Nat.add_assoc]
  | wouldBlock hpos hrun hrecv =>
      exact stands_of_nothing (ht.of_nothing hpos hrecv (fun _ h => by cases h)) (by omega)
        (fun hsome => by rw [if_neg hsome])
  | closed hpos hrun hrecv =>
      exact stands_of_nothing (ht.of_nothing hpos hrecv (fun _ h => by cases h)) (by omega)
        (fun hsome => by rw [if_neg hsome])
  | failed hpos hrun hrecv =>
      exact stands_of_nothing (ht.of_nothing hpos hrecv (fun _ h => by cases h)) (by omega)
        (fun hsome => by rw [if_neg hsome])

/-! ## The calls of a fill -/

/-- The transport with a note of the room of every receive. -/
def Transport.recording (t : Transport σ) : Transport (σ × List Nat) where
  send data s := ((t.send data s.1).1, (t.send data s.1).2, s.2)
  sendPair first second s := ((t.sendPair first second s.1).1, (t.sendPair first second s.1).2, s.2)
  recv room s := ((t.recv room s.1).1, (t.recv room s.1).2, s.2 ++ [room])

/-- Noting the calls does not change what they bring. -/
theorem Transport.Fits.recording (ht : t.Fits) : t.recording.Fits := by
  intro room s data s' hroom hrecv
  have harrived : (t.recv room s.1).1 = .ok (.bytes data) := congrArg Prod.fst hrecv
  exact ht room s.1 data _ hroom (Prod.ext harrived rfl)

namespace RingBuffer

/-- Taking notes changes nothing else. There is a call for each run at most, and none without room
    for something. -/
theorem fillRuns_recording (t : Transport σ) (runs total : Nat) (b : RingBuffer) (s : σ)
    (before : List Nat) :
    ∃ rooms, fillRuns t.recording runs total b (s, before)
        = ((fillRuns t runs total b s).1, (fillRuns t runs total b s).2.1,
            (fillRuns t runs total b s).2.2, before ++ rooms)
      ∧ rooms.length ≤ runs ∧ (∀ room ∈ rooms, 0 < room) ∧ (b.available = 0 → rooms = []) := by
  have hnone : ∀ room ∈ ([] : List Nat), 0 < room := fun _ h => absurd h List.not_mem_nil
  induction runs generalizing total b s before with
  | zero => exact ⟨[], by rw [List.append_nil]; rfl, Nat.le_refl 0, hnone, fun _ => rfl⟩
  | succ runs ih =>
      rw [fillRuns, fillRuns]
      by_cases hroom : b.available = 0
      · rw [if_pos hroom, if_pos hroom]
        exact ⟨[], by rw [List.append_nil], Nat.zero_le _, hnone, fun _ => rfl⟩
      · have hpos := freeRun_pos hroom
        have hone : [b.freeRun].length ≤ runs + 1 ∧ (∀ room ∈ [b.freeRun], 0 < room)
            ∧ (b.available = 0 → [b.freeRun] = []) :=
          ⟨Nat.succ_pos runs, fun room h => List.mem_singleton.mp h ▸ hpos, fun h => absurd h hroom⟩
        have hcall : t.recording.recv b.freeRun (s, before)
            = ((t.recv b.freeRun s).1, (t.recv b.freeRun s).2, before ++ [b.freeRun]) := rfl
        rw [if_neg hroom, if_neg hroom, hcall]
        rcases t.recv b.freeRun s with ⟨e | ⟨data⟩ | _ | _, s'⟩
        · exact ⟨[b.freeRun], rfl, hone⟩
        · by_cases hlt : data.length < b.freeRun
          · simp only [if_pos hlt]
            exact ⟨[b.freeRun], rfl, hone⟩
          · -- the run was filled, and the notes of the other calls follow
            simp only [if_neg hlt]
            obtain ⟨rooms, hrest, hcount, hsome, -⟩ :=
              ih (total + data.length) (b.commit data) s' (before ++ [b.freeRun])
            refine ⟨b.freeRun :: rooms, ?_, Nat.succ_le_succ hcount, ?_, fun h => absurd h hroom⟩
            · rw [hrest, List.append_assoc, List.singleton_append]
            · exact List.forall_mem_cons.mpr ⟨hpos, hsome⟩
        · exact ⟨[b.freeRun], rfl, hone⟩
        · exact ⟨[b.freeRun], rfl, hone⟩

/-! ## Buffers that operations lead to -/

/-- A buffer that was created, and then had operations done to it. -/
inductive Arises : RingBuffer → Prop where
  | created {size : Nat} {memory memory' : Allocator} {b : RingBuffer}
      (hcreate : create size memory = (.ok b, memory')) : Arises b
  | performed {σ : Type} {b : RingBuffer} (hb : Arises b) (op : Operation σ) (hop : op.Honest) :
      Arises (b.perform op).2

variable {b : RingBuffer}

/-- However a buffer came about, it is in order. -/
theorem Arises.wellFormed (hb : b.Arises) : b.WellFormed := by
  induction hb with
  | created hcreate =>
      obtain ⟨hpow, rfl⟩ := create_ok hcreate
      exact blank_wellFormed hpow
  | performed _ op hop ih => exact (perform_refines ih op hop).2

/-- The storage is one that memory can hold. -/
theorem Arises.capacity_le (hb : b.Arises) : b.capacity ≤ maxObject := by
  induction hb with
  | created hcreate =>
      obtain ⟨-, rfl⟩ := create_ok hcreate
      rw [capacity_blank]
      exact Allocator.request_le (create_granted hcreate)
  | performed hb op hop ih => exact capacity_perform_le hb.wellFormed ih op hop

end RingBuffer

/-! ## Sockets -/

/-- A receive takes unread bytes off the front, all for which there is room. -/
theorem Stream.receive_of_unread {stream : Stream} (hsome : stream.unread ≠ []) (room : Nat) :
    ∃ stream', stream.receive room = (.ok (.bytes (stream.unread.take room)), stream')
      ∧ stream'.unread = stream.unread.drop room := by
  refine ⟨{ stream with taken := stream.taken + min room stream.unread.length }, ?_, ?_⟩
  · rw [receive, if_pos hsome]
  · show stream.arrived.drop (stream.taken + min room stream.unread.length)
      = stream.unread.drop room
    rw [← List.drop_drop]
    show stream.unread.drop (min room stream.unread.length) = stream.unread.drop room
    obtain hle | hle := Nat.le_total room stream.unread.length
    · rw [Nat.min_eq_left hle]
    · rw [Nat.min_eq_right hle, List.drop_length, List.drop_of_length_le hle]

namespace Socket

variable {socket : Socket} {h : Host} {i : Nat} {stream : Stream}

/-- The bytes that wait at a socket: those that its stream holds unread. -/
def unread (socket : Socket) (h : Host) : Bytes :=
  ((h.kernel.stream? socket.fd).map Stream.unread).getD []

/-- What waits at a socket is what its stream holds unread. -/
theorem unread_of_joins (hjoins : h.Joins socket.fd i stream) :
    socket.unread h = stream.unread := by
  rw [unread, Kernel.stream?_eq_some_iff.mpr ⟨i, hjoins.index, hjoins.stream⟩]
  rfl

/-- Where something waits, there is a stream. -/
theorem joins_of_unread (hsome : socket.unread h ≠ []) :
    ∃ i stream, h.Joins socket.fd i stream := by
  cases hstream : h.kernel.stream? socket.fd with
  | none => exact absurd (by rw [unread, hstream]; rfl) hsome
  | some stream =>
      obtain ⟨i, hindex, hget⟩ := Kernel.stream?_eq_some_iff.mp hstream
      exact ⟨i, stream, hindex, hget⟩

/-- A socket delivers from the bytes that wait at it, in order and as many as fit. -/
theorem transport_streams (socket : Socket) : socket.transport.Streams socket.unread where
  delivers room h hroom hsome := by
    obtain ⟨i, stream, hjoins⟩ := joins_of_unread hsome
    rw [unread_of_joins hjoins] at hsome ⊢
    obtain ⟨stream', hreceive, hleft⟩ := Stream.receive_of_unread hsome room
    have hon : h.On i stream' { h with kernel := h.kernel.setStream i stream' } := rfl
    refine ⟨{ h with kernel := h.kernel.setStream i stream' }, ?_, ?_⟩
    · show socket.recv room h = _
      rw [recv, hjoins.recv, hreceive]
    · rw [unread_of_joins (hjoins.after hon), hleft]
  idle room h data h' hroom hnone hrecv := by
    obtain ⟨i, stream, hjoins⟩ := joins_of_bytes hrecv
    have hreceipt := recv_receipt hjoins hroom
    rw [show socket.recv room h = _ from hrecv] at hreceipt
    rw [unread_of_joins hjoins] at hnone
    cases hreceipt with
    | delivered hdelivers =>
        cases hdelivers with
        | bytes hne hunread =>
            rw [hnone] at hunread
            exact hne (List.append_eq_nil_iff.mp hunread.symm).1

end Socket

/-! ## Two layouts -/

namespace Layouts

/-- Five bytes wait at one end of a pair. -/
def host : Host :=
  { Host.fresh .isolated (.withLevel .off) with
    kernel := (Kernel.fresh .isolated).socketPair.2.onStream 0 (·.peerSend [10, 11, 12, 13, 14]) }

/-- Two bytes are held at the front of the storage, and six fit behind them. -/
def straight : RingBuffer := (RingBuffer.blank 8).store [4, 5]

theorem blank_arises : (RingBuffer.blank 8).Arises :=
  .created (RingBuffer.create_eq (show isPowerOfTwo 8 = true by decide)
    (show (Allocator.plentiful.request 8).1 = true by decide))

theorem straight_arises : straight.Arises :=
  blank_arises.performed (.append [4, 5] false .plentiful : Operation Unit) trivial

/-- The same two bytes, with two positions free behind them and four at the front. -/
theorem wrapped_arises : Severed.input.Arises :=
  (blank_arises.performed (.append [0, 1, 2, 3, 4, 5] false .plentiful : Operation Unit)
    trivial).performed
    (.consume 4 : Operation Unit) trivial

end Layouts

/-! ## Filling -/

namespace RingBuffer

variable {b : RingBuffer}

/-- What arrives is as long a part of what waits as there is room for. -/
theorem toList_fillFrom (ht : t.Streams waiting) (h : b.WellFormed) (s : σ) :
    (b.fillFrom t s).2.1.toList = b.toList ++ (waiting s).take b.available := by
  obtain ⟨data, hreceives, -, hback, -⟩ := fillFrom_receives ht.fits s h
  rw [hback, (hreceives.of_streams ht).1]

/-- Where there is room and nothing waits, the one call that is made is the answer. -/
theorem fillFrom_of_idle (ht : t.Streams waiting) (hroom : b.available ≠ 0)
    (hnone : waiting s = []) :
    ∃ r s', t.recv b.freeRun s = (r, s') ∧ (∀ data, r ≠ .ok (.bytes data))
      ∧ b.fillFrom t s = (r.map Arrival.answer, b, s') := by
  rcases hrecv : t.recv b.freeRun s with ⟨r, s'⟩
  have hnothing : ∀ data, r ≠ .ok (.bytes data) := by
    rintro data rfl
    exact ht.idle _ _ _ _ (freeRun_pos hroom) hnone hrecv
  exact ⟨r, s', rfl, hnothing, fillFrom_of_nothing hroom hrecv hnothing⟩

/-- Otherwise the answer is how much arrived, which is what there is room for. -/
theorem fillFrom_reads_iff (ht : t.Streams waiting) (h : b.WellFormed) (s : σ) (n : Nat) :
    (b.fillFrom t s).1 = .ok (.read n)
      ↔ ¬ (b.available ≠ 0 ∧ waiting s = []) ∧ n = min b.available (waiting s).length := by
  by_cases hidle : b.available ≠ 0 ∧ waiting s = []
  · obtain ⟨r, s', -, hnothing, hfill⟩ := fillFrom_of_idle ht hidle.1 hidle.2
    constructor
    · intro hread
      rw [hfill] at hread
      rcases r with e | ⟨data⟩ | _ | _
      · cases hread
      · exact absurd rfl (hnothing data)
      · cases hread
      · cases hread
    · rintro ⟨hbusy, -⟩
      exact absurd hidle hbusy
  · obtain ⟨data, hreceives, -⟩ := fillFrom_receives ht.fits s h
    obtain ⟨hdata, hanswer⟩ := hreceives.of_streams ht
    have hcount : data.length = min b.available (waiting s).length := by
      rw [hdata, List.length_take]
    -- some bytes were read or there was no room, and in both cases the count is the answer
    have hsome : 0 < 0 + data.length ∨ b.available = 0 := by
      by_cases hroom : b.available = 0
      · exact .inr hroom
      · have := List.length_pos_iff.mpr (fun hnone => hidle ⟨hroom, hnone⟩)
        exact .inl (by omega)
    rw [hanswer hsome, hcount, Nat.zero_add]
    constructor
    · intro hread
      exact ⟨hidle, (Fill.read.inj (Except.ok.inj hread)).symm⟩
    · rintro ⟨-, rfl⟩
      rfl

/-- **A fill takes all there is room for, independently of the layout.**  Without room it makes
    no call. With room, it answers how much it took where something waits, and takes exactly
    that from the front of what waits; where nothing waits, it answers what its call came to,
    and the buffer stays as it is. Each call, of two at most, is for a run of positions that is
    not empty and in which no held byte lies. What the buffer holds afterwards does not depend
    on its offsets. -/
theorem fillFrom_takes_all (ht : t.Streams waiting) (hb : b.Arises) (s : σ) :
    (b.available = 0 → b.fillFrom t s = (.ok (.read 0), b, s))
    ∧ (b.available ≠ 0 → waiting s ≠ [] →
        (b.fillFrom t s).1 = .ok (.read (min b.available (waiting s).length))
        ∧ (b.fillFrom t s).2.1.toList = b.toList ++ (waiting s).take b.available)
    ∧ (b.available ≠ 0 → waiting s = [] →
        ∃ r s', t.recv b.freeRun s = (r, s') ∧ b.fillFrom t s = (r.map Arrival.answer, b, s'))
    ∧ ((∀ n, (b.fillFrom t s).1 ≠ .ok (.read n)) ↔ b.available ≠ 0 ∧ waiting s = [])
    ∧ (b.fillFrom t s).2.1.capacity = b.capacity
    ∧ (∃ rooms, Checked.fillRuns t.recording 2 0 b (s, [])
          = some ((b.fillFrom t s).1, (b.fillFrom t s).2.1, (b.fillFrom t s).2.2, rooms)
        ∧ rooms.length ≤ 2 ∧ (∀ room ∈ rooms, 0 < room) ∧ (b.available = 0 → rooms = []))
    ∧ ∀ b' : RingBuffer, b'.Arises → b'.toList = b.toList → b'.capacity = b.capacity →
        (b'.fillFrom t s).2.1.toList = (b.fillFrom t s).2.1.toList
        ∧ ∀ n, (b'.fillFrom t s).1 = .ok (.read n) ↔ (b.fillFrom t s).1 = .ok (.read n) := by
  have h := hb.wellFormed
  refine ⟨fun hfull => ?_, fun _ hsome => ⟨?_, toList_fillFrom ht h s⟩, fun hroom hnone => ?_, ?_,
    ?_, ?_, ?_⟩
  · rw [fillFrom, fillRuns, if_pos hfull]
  · exact (fillFrom_reads_iff ht h s _).mpr ⟨fun hidle => hsome hidle.2, rfl⟩
  · obtain ⟨r, s', hrecv, -, hfill⟩ := fillFrom_of_idle ht hroom hnone
    exact ⟨r, s', hrecv, hfill⟩
  · constructor
    · intro hnever
      by_contra hbusy
      exact hnever _ ((fillFrom_reads_iff ht h s _).mpr ⟨hbusy, rfl⟩)
    · intro hidle n hread
      exact ((fillFrom_reads_iff ht h s n).mp hread).1 hidle
  · obtain ⟨-, -, -, -, hcap⟩ := fillFrom_receives ht.fits s h
    exact hcap
  · obtain ⟨rooms, hcalls, hbounds⟩ := fillRuns_recording t 2 0 b s []
    have hwords : 0 + b.available ≤ maxWord := by
      have : b.available ≤ b.capacity := Nat.sub_le _ _
      have := hb.capacity_le
      have : maxObject ≤ maxWord := by decide
      omega
    refine ⟨rooms, ?_, hbounds⟩
    rw [Checked.fillRuns_eq ht.fits.recording 2 0 (s, []) h hb.capacity_le hwords, hcalls,
      List.nil_append]
    rfl
  -- the answer and the contents are given by length and capacity, so the layout cannot matter
  · intro b' hb' hlist hcap
    have h' := hb'.wellFormed
    have hroom : b'.available = b.available := by rw [available_eq h', available_eq h, hlist, hcap]
    refine ⟨?_, fun n => ?_⟩
    · rw [toList_fillFrom ht h' s, toList_fillFrom ht h s, hlist, hroom]
    · rw [fillFrom_reads_iff ht h' s n, fillFrom_reads_iff ht h s n, hroom]

/-- The statement at a fill that wraps, and at one of the same bytes that does not. -/
theorem fillFrom_takes_all_wrapping :
    (⟨3⟩ : Socket).transport.Streams (⟨3⟩ : Socket).unread
      ∧ Severed.input.Arises ∧ Layouts.straight.Arises
      ∧ Severed.input.toList = Layouts.straight.toList ∧ Severed.input.head ≠ Layouts.straight.head
      ∧ (Severed.input.fillFrom (⟨3⟩ : Socket).transport Layouts.host).1 = .ok (.read 5)
      ∧ (Severed.input.fillFrom (⟨3⟩ : Socket).transport Layouts.host).2.1.toList
          = [4, 5, 10, 11, 12, 13, 14]
      ∧ (Layouts.straight.fillFrom (⟨3⟩ : Socket).transport Layouts.host).2.1.toList
          = [4, 5, 10, 11, 12, 13, 14] := by
  have hsocket := Socket.transport_streams ⟨3⟩
  have hcontents : Severed.input.toList = Layouts.straight.toList := by decide
  obtain ⟨-, htakes, -, -, -, -, hsame⟩ :=
    fillFrom_takes_all hsocket Layouts.wrapped_arises Layouts.host
  obtain ⟨hanswer, hback⟩ := htakes (by decide) (by decide)
  refine ⟨hsocket, Layouts.wrapped_arises, Layouts.straight_arises, hcontents, by decide, hanswer,
    hback, ?_⟩
  exact (hsame _ Layouts.straight_arises hcontents.symm rfl).1.trans hback

end RingBuffer

end EventLoop
