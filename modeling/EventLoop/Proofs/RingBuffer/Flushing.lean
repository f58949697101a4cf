import EventLoop.Proofs.Socket.Filling

/-! # Flushing in two runs, and flushing their join

    Held bytes that pass the end of the storage are two runs. A transport may write
    them by a call of its own, or join them in a temporary and write that
    (`Transport.linearising`). Where a call takes the first bytes of what it is
    offered, up to a quota (`Transport.Takes`), the two come to the same.

    * `RingBuffer.offer` is the one call that a flush makes. Without memory for the
      temporary apart, the linearising transport is offered the whole list of held
      bytes in a plain write (`offer_linearising`).
    * `Transport.noting` keeps a note of every call that offers bytes, from which
      `handedOver` reads what was handed over.
    * `flushes_pass`: flushes in a row hand over the front of what is held, piece by
      piece. The induction is on their number; what was handed over and what is still
      held make up the contents at every moment. -/

namespace EventLoop

variable {σ : Type} {t : Transport σ} {live : σ → Prop} {quota : σ → Option Nat} {s : σ}
  {b : RingBuffer}

/-! ## Transports that take the front -/

/-- How many of a number of bytes a quota lets through; without one, all of them. -/
def allotted (quota : Option Nat) (count : Nat) : Nat := min count (quota.getD count)

/-- As long as the transport is live, a write takes the first bytes of what it offers, as many as
    the quota lets through, and leaves it live. -/
structure Transport.Takes (t : Transport σ) (live : σ → Prop) (quota : σ → Option Nat) : Prop where
  send : ∀ data s, live s → ∃ s', t.send data s = (.ok (allotted (quota s) data.length), s')
    ∧ live s'
  sendPair : ∀ first second s, live s →
    ∃ s', t.sendPair first second s = (.ok (allotted (quota s) (first ++ second).length), s')
      ∧ live s'

/-- The transport with the joined write in place of its own write of two runs, and memory for it. -/
def Transport.linearising (t : Transport σ) : Transport (σ × Allocator) :=
  .joining (fun data s => ((t.send data s.1).1, (t.send data s.1).2, s.2))
    (fun room s => ((t.recv room s.1).1, (t.recv room s.1).2, s.2))
    (fun bytes s => ((s.2.request bytes).1, s.1, (s.2.request bytes).2))

/-- Memory that grants every request up to a size, however often. -/
def Allocator.Lends (memory : Allocator) (size : Nat) : Prop :=
  size ≤ memory.limit ∧ size ≤ min memory.ceiling maxObject

/-- Memory that lends a size lends every smaller one, again and again. -/
theorem Allocator.Lends.request {memory : Allocator} {size bytes : Nat} (h : memory.Lends size)
    (hbytes : bytes ≤ size) : memory.request bytes = (true, memory) := by
  have hlimit := h.1
  have hceiling := h.2
  rw [Allocator.request, if_neg (by omega), if_pos (by omega)]

theorem allotted_le (quota : Option Nat) (count : Nat) : allotted quota count ≤ count :=
  Nat.min_le_left _ _

/-- A quota that is not used up lets something through. -/
theorem allotted_pos {quota : Option Nat} {count : Nat} (hquota : quota ≠ some 0)
    (hcount : 0 < count) :
    0 < allotted quota count := by
  cases quota with
  | none => simpa [allotted] using hcount
  | some n =>
      have hn : n ≠ 0 := fun hzero => hquota (by rw [hzero])
      simp only [allotted, Option.getD_some]
      omega

/-! ## Notes of the calls -/

/-- A call that offered bytes, and what it answered. -/
structure Sending where
  offered : Bytes
  answer : Except Error Nat

/-- The bytes that a call handed over: the first ones of those it offered, as many as were taken. -/
def Sending.taken (call : Sending) : Bytes :=
  match call.answer with
  | .ok n => call.offered.take n
  | .error _ => []

/-- The bytes that calls handed over, in order. -/
def handedOver (calls : List Sending) : Bytes := calls.flatMap Sending.taken

/-- The transport with a note of every call that offers bytes. -/
def Transport.noting (t : Transport σ) : Transport (σ × List Sending) where
  send data s := ((t.send data s.1).1, (t.send data s.1).2, s.2 ++ [⟨data, (t.send data s.1).1⟩])
  sendPair first second s := ((t.sendPair first second s.1).1, (t.sendPair first second s.1).2,
    s.2 ++ [⟨first ++ second, (t.sendPair first second s.1).1⟩])
  recv room s := ((t.recv room s.1).1, (t.recv room s.1).2, s.2)

/-- A call that took some bytes hands over the first ones it was offered. -/
theorem handedOver_concat (calls : List Sending) (offered : Bytes) (n : Nat) :
    handedOver (calls ++ [⟨offered, .ok n⟩]) = handedOver calls ++ offered.take n := by
  simp [handedOver, Sending.taken]

namespace RingBuffer

/-! ## The call of a flush -/

/-- The call by which a flush offers the held bytes: plainly when they are one run. -/
def offer (b : RingBuffer) (t : Transport σ) (s : σ) : Except Error Nat × σ :=
  if b.segments.2.isEmpty then t.send b.segments.1 s else t.sendPair b.segments.1 b.segments.2 s

/-- A flush of held bytes is one call that offers them, and the removal of what it took. -/
theorem flushTo_eq (t : Transport σ) (s : σ) (h : b.isEmpty = false) :
    b.flushTo t s = match b.offer t s with
      | (.ok sent, s') => (.ok (b.consume sent).1, (b.consume sent).2, s')
      | (.error e, s') => (.error e, b, s') := by
  rw [flushTo, h]
  rfl

/-- Bytes in one run are offered plainly. -/
theorem offer_straight (t : Transport σ) (s : σ) (h : b.segments.2 = []) :
    b.offer t s = t.send b.toList s := by
  simp [offer, toList, h]

/-- Bytes in two runs are offered as two. -/
theorem offer_wrapped (t : Transport σ) (s : σ) (h : b.segments.2 ≠ []) :
    b.offer t s = t.sendPair b.segments.1 b.segments.2 s := by
  rw [offer, if_neg (by simpa using h)]

/-- What is offered is taken up to the quota, by whichever call. -/
theorem offer_takes (ht : t.Takes live quota) (hs : live s) (b : RingBuffer) :
    ∃ s', b.offer t s = (.ok (allotted (quota s) b.toList.length), s') ∧ live s' := by
  by_cases hsecond : b.segments.2 = []
  · rw [offer_straight t s hsecond]
    exact ht.send b.toList s hs
  · rw [offer_wrapped t s hsecond]
    exact ht.sendPair b.segments.1 b.segments.2 s hs

/-- The note of an offer has the bytes in order, in one run or two. -/
theorem offer_noting (t : Transport σ) (b : RingBuffer) (s : σ) (before : List Sending) :
    b.offer t.noting (s, before)
      = ((b.offer t s).1, (b.offer t s).2, before ++ [⟨b.toList, (b.offer t s).1⟩]) := by
  by_cases hsecond : b.segments.2 = []
  · rw [offer_straight _ _ hsecond, offer_straight _ _ hsecond]
    rfl
  · rw [offer_wrapped _ _ hsecond, offer_wrapped _ _ hsecond]
    rfl

/-- With memory for the temporary, the linearising transport makes one plain write of all that is
    held. -/
theorem offer_linearising (t : Transport σ) (s : σ) {memory : Allocator}
    (hmemory : b.segments.2 ≠ [] → (memory.request b.toList.length).1 = true) :
    b.offer t.linearising (s, memory)
      = ((t.send b.toList s).1, (t.send b.toList s).2,
          if b.segments.2 = [] then memory else (memory.request b.toList.length).2) := by
  by_cases hsecond : b.segments.2 = []
  · rw [offer_straight _ _ hsecond, if_pos hsecond]
    rfl
  · have hlength : b.segments.1.length + b.segments.2.length = b.toList.length :=
      List.length_append.symm
    have hgranted := hmemory hsecond
    rw [offer_wrapped _ _ hsecond, if_neg hsecond]
    simp only [Transport.linearising, Transport.joining, Transport.joinPair]
    rw [if_neg (by simpa using hsecond), hlength]
    simp only [hgranted]
    rfl

/-! ## One flush -/

/-- What a flush of held bytes does when its call took some of them. -/
theorem flushTo_of_offer (h : b.WellFormed) {k : Nat} {s' : σ} (hsome : b.isEmpty = false)
    (hk : k ≤ b.length)
    (hoffer : b.offer t s = (.ok k, s')) : b.flushTo t s = (.ok k, (b.consume k).2, s') := by
  rw [flushTo_eq t s hsome, hoffer]
  simp only [consume_count h, length_toList h, Nat.min_eq_left hk]

/-! ## Flushes in a row -/

/-- Flush a number of times. -/
def flushes (t : Transport σ) : Nat → RingBuffer → σ → RingBuffer × σ
  | 0, b, s => (b, s)
  | n + 1, b, s => flushes t n (b.flushTo t s).2.1 (b.flushTo t s).2.2

/-- As long as the transport is live, a call that offers held bytes, `most` of them at most,
    hands some of them over, the first ones, and leaves it live. -/
def Passes (t : Transport σ) (live : σ → Prop) (handed : σ → Bytes) (most : Nat) : Prop :=
  ∀ (b : RingBuffer) (s : σ), b.WellFormed → b.isEmpty = false → b.length ≤ most → live s →
    ∃ k s', b.offer t s = (.ok k, s') ∧ 0 < k ∧ k ≤ b.length ∧ live s'
      ∧ handed s' = handed s ++ b.toList.take k

/-- Flush after flush, what was handed over and what is held make up what there was, and
    with each call that hands something over the rest gets shorter. -/
theorem flushes_pass {handed : σ → Bytes} {most : Nat} (ht : Passes t live handed most) (n : Nat)
    (h : b.WellFormed) (hmost : b.length ≤ most) (hs : live s) :
    handed (flushes t n b s).2 ++ (flushes t n b s).1.toList = handed s ++ b.toList
      ∧ (flushes t n b s).1.toList.length ≤ b.length - n := by
  -- on the flushes; what was handed over and what is held stay together
  induction n generalizing b s with
  | zero => exact ⟨rfl, Nat.le_of_eq (length_toList h)⟩
  | succ n ih =>
      have hlength := length_toList h
      cases hempty : b.isEmpty with
      | true =>
          obtain ⟨hkept, hleft⟩ := ih h hmost hs
          rw [flushes, flushTo_of_empty t s hempty]
          dsimp only
          rw [isEmpty_eq h, List.isEmpty_iff] at hempty
          rw [hempty, List.length_nil] at hlength
          exact ⟨hkept, by omega⟩
      | false =>
          obtain ⟨k, s', hoffer, hpos, hk, hs', hfront⟩ := ht b s h hempty hmost hs
          have hlist := toList_consume h k
          have hless : (b.consume k).2.length = b.length - k := by
            rw [← length_toList (consume_wellFormed h k), hlist, List.length_drop, hlength]
          rw [flushes, flushTo_of_offer h hempty hk hoffer]
          dsimp only
          obtain ⟨hkept, hleft⟩ := ih (consume_wellFormed h k) (by omega) hs'
          refine ⟨?_, by omega⟩
          rw [hkept, hfront, hlist, List.append_assoc, List.take_append_drop]

/-- A live transport takes something of what is not nothing. -/
theorem allotted_held (h : b.WellFormed) (hsome : b.isEmpty = false) {quota : Option Nat}
    (hquota : quota ≠ some 0) :
    0 < allotted quota b.toList.length ∧ allotted quota b.toList.length ≤ b.length := by
  rw [isEmpty_eq h, List.isEmpty_eq_false_iff] at hsome
  constructor
  · exact allotted_pos hquota (List.length_pos_iff.mpr hsome)
  · rw [← length_toList h]
    exact allotted_le _ _

/-- Where no quota is used up, a live transport hands something over in each call. -/
theorem passes_noting (ht : t.Takes live quota) (hquota : ∀ s, live s → quota s ≠ some 0)
    (most : Nat) :
    Passes t.noting (fun s => live s.1) (fun s => handedOver s.2) most := by
  rintro b ⟨s, before⟩ h hsome - hs
  obtain ⟨s', hoffer, hs'⟩ := offer_takes ht hs b
  obtain ⟨hpos, hle⟩ := allotted_held h hsome (hquota s hs)
  refine ⟨_, (s', before ++ [⟨b.toList, .ok _⟩]), ?_, hpos, hle, hs',
    handedOver_concat before b.toList _⟩
  rw [offer_noting, hoffer]

/-- The same through a join of the two runs, as long as memory lends what it needs. -/
theorem passes_linearising (ht : t.Takes live quota) (hquota : ∀ s, live s → quota s ≠ some 0)
    (most : Nat) :
    Passes t.noting.linearising (fun s => live s.1.1 ∧ s.2.Lends most)
      (fun s => handedOver s.1.2) most := by
  rintro b ⟨⟨s, before⟩, memory⟩ h hsome hmost ⟨hs, hlends⟩
  obtain ⟨s', hsend, hs'⟩ := ht.send b.toList s hs
  obtain ⟨hpos, hle⟩ := allotted_held h hsome (hquota s hs)
  have hrequest : memory.request b.toList.length = (true, memory) :=
    hlends.request (by rw [length_toList h]; exact hmost)
  refine ⟨_, ((s', before ++ [⟨b.toList, .ok _⟩]), memory), ?_, hpos, hle, ⟨hs', hlends⟩,
    handedOver_concat before b.toList _⟩
  rw [offer_linearising _ _ (fun _ => by rw [hrequest]), hrequest, ite_self]
  simp only [Transport.noting, hsend]

/-! ## Both ways -/

/-- A flush comes to the same by the transport's own write of two runs and by the join of them: it
    answers `k`, leaves the same buffer, and makes the same calls, of which there is one at most. -/
structure FlushedAlike (t : Transport σ) (b : RingBuffer) (s : σ) (memory : Allocator) (k : Nat)
    (c : RingBuffer) (calls : List Sending) : Prop where
  own : ∃ s', b.flushTo t s = (.ok k, c, s') ∧ b.flushTo t.noting (s, []) = (.ok k, c, s', calls)
  joined : ∃ s' memory', b.flushTo t.linearising (s, memory) = (.ok k, c, s', memory')
    ∧ b.flushTo t.noting.linearising ((s, []), memory) = (.ok k, c, (s', calls), memory')
  once : calls = if b.isEmpty then [] else [⟨b.toList, .ok k⟩]
  handed : handedOver calls = b.toList.take k
  left : c.toList = b.toList.drop k

/-- An empty buffer makes no call either way. -/
theorem flushedAlike_of_empty (t : Transport σ) (hempty : b.isEmpty = true) (s : σ)
    (memory : Allocator) : FlushedAlike t b s memory 0 b [] where
  own := ⟨s, flushTo_of_empty t s hempty, flushTo_of_empty t.noting (s, []) hempty⟩
  joined := ⟨s, memory, flushTo_of_empty t.linearising (s, memory) hempty,
    flushTo_of_empty t.noting.linearising ((s, []), memory) hempty⟩
  once := by rw [hempty, if_pos rfl]
  handed := List.take_zero.symm
  left := List.drop_zero.symm

/-- Held bytes are offered in one call either way, which takes up to the quota. -/
theorem flushedAlike_of_some (ht : t.Takes live quota) (h : b.WellFormed)
    (hsome : b.isEmpty = false) (hs : live s)
    {memory : Allocator} (hmemory : b.segments.2 ≠ [] → (memory.request b.toList.length).1 = true) :
    FlushedAlike t b s memory (allotted (quota s) b.toList.length)
      (b.consume (allotted (quota s) b.toList.length)).2
      [⟨b.toList, .ok (allotted (quota s) b.toList.length)⟩] := by
  obtain ⟨s₁, hoffer, -⟩ := offer_takes ht hs b
  obtain ⟨s₂, hsend, -⟩ := ht.send b.toList s hs
  have hk : allotted (quota s) b.toList.length ≤ b.length := by
    rw [← length_toList h]
    exact allotted_le _ _
  constructor
  case own =>
    refine ⟨s₁, flushTo_of_offer h hsome hk hoffer, flushTo_of_offer h hsome hk ?_⟩
    rw [offer_noting, hoffer]
    rfl
  case joined =>
    -- the join offers the same bytes by a plain send
    have hnoted : t.noting.send b.toList (s, [])
        = (.ok (allotted (quota s) b.toList.length), s₂,
          [⟨b.toList, .ok (allotted (quota s) b.toList.length)⟩]) := by
      simp [Transport.noting, hsend]
    have hplain := offer_linearising t s hmemory
    have hcalls := offer_linearising t.noting (s, []) hmemory
    rw [hsend] at hplain
    rw [hnoted] at hcalls
    exact ⟨s₂, _, flushTo_of_offer h hsome hk hplain, flushTo_of_offer h hsome hk hcalls⟩
  case once => rw [hsome, if_neg Bool.false_ne_true]
  case handed => exact handedOver_concat [] b.toList _
  case left => exact toList_consume h _

/-- **Writing two runs and writing their join agree.**  Over a transport that takes the front of
    what it is offered, with memory for the temporary, a flush comes to the same either way. As
    long as some byte is taken by each call, as many flushes as there are bytes empty the buffer
    either way, and what they handed over are its contents. -/
theorem flush_linearised (ht : t.Takes live quota) (hb : b.Arises) :
    (∀ s memory, live s → (b.segments.2 ≠ [] → (memory.request b.length).1 = true) →
      ∃ c calls, FlushedAlike t b s memory (allotted (quota s) b.length) c calls)
    ∧ ((∀ s, live s → quota s ≠ some 0) → ∀ s memory n,
      live s → memory.Lends b.length → b.length ≤ n →
        ((flushes t.noting n b (s, [])).1.toList = []
          ∧ handedOver (flushes t.noting n b (s, [])).2.2 = b.toList)
        ∧ (flushes t.noting.linearising n b ((s, []), memory)).1.toList = []
          ∧ handedOver (flushes t.noting.linearising n b ((s, []), memory)).2.1.2 = b.toList) := by
  have h := hb.wellFormed
  constructor
  · intro s memory hs hmemory
    rw [← length_toList h] at hmemory ⊢
    cases hempty : b.isEmpty with
    | true =>
        have hnone : allotted (quota s) b.toList.length = 0 := by
          rw [isEmpty_eq h, List.isEmpty_iff] at hempty
          simp [hempty, allotted]
        rw [hnone]
        exact ⟨b, [], flushedAlike_of_empty t hempty s memory⟩
    | false => exact ⟨_, _, flushedAlike_of_some ht h hempty hs hmemory⟩
  · intro hquota s memory n hs hlends hn
    -- after as many flushes as there are bytes nothing can be left
    have hemptied : ∀ {c : RingBuffer} {handed : Bytes},
        handed ++ c.toList = handedOver [] ++ b.toList ∧ c.toList.length ≤ b.length - n →
          c.toList = [] ∧ handed = b.toList := by
      rintro c handed ⟨hkept, hleft⟩
      have hnone : c.toList = [] := List.length_eq_zero_iff.mp (by omega)
      rw [hnone, List.append_nil] at hkept
      exact ⟨hnone, hkept⟩
    constructor
    · exact hemptied (flushes_pass (passes_noting ht hquota b.length) n h (Nat.le_refl _)
        (s := (s, [])) hs)
    · exact hemptied (flushes_pass (passes_linearising ht hquota b.length) n h (Nat.le_refl _)
        (s := ((s, []), memory)) ⟨hs, hlends⟩)

end RingBuffer

/-! ## Such transports -/

/-- A rehearsed transport takes what it was told to, as long as it was not told to fail. -/
theorem Rehearsal.vectored_takes (take : Option Nat) :
    Rehearsal.vectored.Takes (fun r => r.failure = none ∧ r.take = take) (fun _ => take) where
  send := by
    rintro data r ⟨hnone, rfl⟩
    refine ⟨{ r with calls := r.calls ++ [.send data] }, ?_, hnone, rfl⟩
    simp [Rehearsal.vectored, Rehearsal.send, hnone, allotted]
  sendPair := by
    rintro first second r ⟨hnone, rfl⟩
    refine ⟨{ r with calls := r.calls ++ [.sendPair first second] }, ?_, hnone, rfl⟩
    simp [Rehearsal.vectored, Rehearsal.sendVectored, hnone, allotted]

namespace Socket

/-- The socket is an end of a stream that was not broken off, and whose peer takes whatever
    comes if that is asked for. -/
def Whole (socket : Socket) (unlimited : Bool) (h : Host) : Prop :=
  ∃ i stream, h.Joins socket.fd i stream ∧ stream.fault = .intact ∧ stream.peerEnd ≠ .gone
    ∧ (unlimited = true → stream.window = none)

/-- What the peer still takes. -/
def window (socket : Socket) (h : Host) : Option Nat :=
  (h.kernel.stream? socket.fd).bind Stream.window

theorem window_eq {socket : Socket} {h : Host} {i : Nat} {stream : Stream}
    (hjoins : h.Joins socket.fd i stream) : socket.window h = stream.window := by
  rw [window, Kernel.stream?_eq_some_iff.mpr ⟨i, hjoins.index, hjoins.stream⟩, Option.bind_some]

/-- A socket takes what its window lets through. -/
theorem send_takes {socket : Socket} {unlimited : Bool} {h : Host}
    (hwhole : socket.Whole unlimited h) (data : Bytes) :
    ∃ h', socket.send data h = (.ok (allotted (socket.window h) data.length), h')
      ∧ socket.Whole unlimited h' := by
  obtain ⟨i, stream, hjoins, hintact, hpeer, hwindow⟩ := hwhole
  rw [window_eq hjoins, send, hjoins.send]
  cases hstalled : stream.stalled with
  | true =>
      have hsend : stream.send data = (.error .again, stream) := by
        cases hfamily : stream.family <;> simp [Stream.send, hfamily, hintact, hpeer, hstalled]
      have hshut : stream.window = some 0 := by simpa [Stream.stalled] using hstalled
      refine ⟨{ h with kernel := h.kernel.setStream i stream }, ?_, i, stream, hjoins.after rfl,
        hintact, hpeer, hwindow⟩
      simp [hsend, allotted, hshut]
  | false =>
      have hsend : stream.send data = (.ok (stream.admits data.length),
          { stream with
            handed := stream.handed ++ data.take (stream.admits data.length)
            window := stream.window.map (· - stream.admits data.length) }) := by
        cases hfamily : stream.family <;> simp [Stream.send, hfamily, hintact, hpeer, hstalled]
      rw [hsend]
      refine ⟨_, rfl, i, _, hjoins.after rfl, hintact, hpeer, fun hunlimited => ?_⟩
      dsimp only
      rw [hwindow hunlimited, Option.map_none]

/-- The socket of a stream that is whole takes what its peer's window lets through. -/
theorem transport_takes (socket : Socket) (unlimited : Bool) :
    socket.transport.Takes (socket.Whole unlimited) socket.window where
  send data _ hwhole := send_takes hwhole data
  sendPair first second _ hwhole := send_takes hwhole (first ++ second)

/-- A peer that takes whatever comes takes something. -/
theorem Whole.window_ne {socket : Socket} {h : Host} (hwhole : socket.Whole true h) :
    socket.window h ≠ some 0 := by
  obtain ⟨i, stream, hjoins, _, _, hwindow⟩ := hwhole
  rw [window_eq hjoins, hwindow rfl]
  exact Option.some_ne_none 0 |>.symm

end Socket

/-! ## Data at both ends of the storage -/

/-- Six bytes are held, four of them at the end of the storage and two at its front. -/
def Layouts.straddling : RingBuffer := Severed.input.store [6, 7, 8, 9]

theorem Layouts.straddling_arises : straddling.Arises :=
  wrapped_arises.performed (.append [6, 7, 8, 9] false .plentiful : Operation Unit) trivial

/-- The peer of the host's one socket reads whatever comes. -/
theorem Layouts.host_whole : (⟨3⟩ : Socket).Whole true host :=
  ⟨0, _, ⟨by decide, rfl⟩, rfl, by decide, fun _ => rfl⟩

/-- Of six bytes five are taken, the last of them from behind the end of the storage, and one is
    left; flushes until nothing is held hand over all six; and so does a flush into a socket. -/
theorem RingBuffer.flush_linearised_straddling :
    let peer : Rehearsal := ⟨some 5, none, [], .plentiful, []⟩
    Layouts.straddling.Arises ∧ Layouts.straddling.segments = ([4, 5, 6, 7], [8, 9])
      ∧ (∃ c calls, FlushedAlike Rehearsal.vectored Layouts.straddling peer .plentiful 5 c calls
        ∧ c.toList = [9])
      ∧ handedOver (flushes Rehearsal.vectored.noting 6 Layouts.straddling (peer, [])).2.2
        = [4, 5, 6, 7, 8, 9]
      ∧ handedOver (flushes (⟨3⟩ : Socket).transport.noting.linearising 6 Layouts.straddling
          ((Layouts.host, []), .plentiful)).2.1.2 = [4, 5, 6, 7, 8, 9] := by
  intro peer
  have hcontents : Layouts.straddling.toList = [4, 5, 6, 7, 8, 9] := by decide
  have hlength : Layouts.straddling.length = 6 := by decide
  have hlends : Allocator.plentiful.Lends Layouts.straddling.length := by
    rw [hlength]
    exact ⟨by decide, by decide⟩
  obtain ⟨honce, hrepeated⟩ :=
    flush_linearised (Rehearsal.vectored_takes (some 5)) Layouts.straddling_arises
  obtain ⟨-, hsocket⟩ :=
    flush_linearised (Socket.transport_takes ⟨3⟩ true) Layouts.straddling_arises
  obtain ⟨c, calls, halike⟩ := honce peer .plentiful ⟨rfl, rfl⟩ (fun _ => by decide)
  obtain ⟨⟨-, hown⟩, -⟩ :=
    hrepeated (fun _ _ => by decide) peer .plentiful 6 ⟨rfl, rfl⟩ hlends (Nat.le_of_eq hlength)
  obtain ⟨-, -, hjoined⟩ := hsocket (fun _ => Socket.Whole.window_ne) Layouts.host .plentiful 6
    Layouts.host_whole hlends (Nat.le_of_eq hlength)
  rw [hlength] at halike
  refine ⟨Layouts.straddling_arises, by decide, ⟨c, calls, halike, ?_⟩, hown.trans hcontents,
    hjoined.trans hcontents⟩
  rw [halike.left, hcontents]
  rfl

end EventLoop
