import EventLoop.Proofs.Socket.Transfers

/-! # A socket is its stream

    What a call on a socket answers, and what it makes of the stream, is told by the stream:
    the rest of the host has no part in it, and stays as it is but for the log
    (`Host.Touches`). So a socket answers as a transport does that has nothing but the
    stream (`Socket.alone`).

    * `Transport.Simulates`: two transports that answer alike as long as they are in related
      states. A flush and a fill do not tell one from the other (`RingBuffer.flushTo_simulated`,
      `RingBuffer.fillRuns_simulated`, by induction on the receives).
    * `Socket.alone_simulated`: a socket and its stream.
    * `Connection.flush_alone` and `Connection.receive_alone` say so of connections. -/

namespace EventLoop

/-! ## Transports that answer alike -/

/-- In related states two transports give the same answers, and are left in related states. -/
structure Transport.Simulates {σ τ : Type} (t : Transport σ) (t' : Transport τ) (R : σ → τ → Prop) :
    Prop where
  send : ∀ data s u, R s u → (t.send data s).1 = (t'.send data u).1
    ∧ R (t.send data s).2 (t'.send data u).2
  sendPair : ∀ first second s u, R s u → (t.sendPair first second s).1
    = (t'.sendPair first second u).1
    ∧ R (t.sendPair first second s).2 (t'.sendPair first second u).2
  recv : ∀ room s u, R s u → (t.recv room s).1 = (t'.recv room u).1
    ∧ R (t.recv room s).2 (t'.recv room u).2

namespace RingBuffer

section

variable {σ τ : Type} {t : Transport σ} {t' : Transport τ} {R : σ → τ → Prop}
  (hsim : t.Simulates t' R)

include hsim

/-- A flush does not tell transports apart that answer alike. -/
theorem flushTo_simulated (b : RingBuffer) {s : σ} {u : τ} (hR : R s u) :
    (b.flushTo t s).1 = (b.flushTo t' u).1 ∧ (b.flushTo t s).2.1 = (b.flushTo t' u).2.1
      ∧ R (b.flushTo t s).2.2 (b.flushTo t' u).2.2 := by
  rw [flushTo, flushTo]
  split
  · exact ⟨rfl, rfl, hR⟩
  · dsimp only
    have hcall :
        (if b.segments.2.isEmpty then t.send b.segments.1 s
          else t.sendPair b.segments.1 b.segments.2 s).1
          = (if b.segments.2.isEmpty then t'.send b.segments.1 u
            else t'.sendPair b.segments.1 b.segments.2 u).1
        ∧ R (if b.segments.2.isEmpty then t.send b.segments.1 s
          else t.sendPair b.segments.1 b.segments.2 s).2
          (if b.segments.2.isEmpty then t'.send b.segments.1 u
            else t'.sendPair b.segments.1 b.segments.2 u).2 := by
      split
      · exact hsim.send _ s u hR
      · exact hsim.sendPair _ _ s u hR
    -- one call on either side, whichever it is
    generalize (if b.segments.2.isEmpty then t.send b.segments.1 s
      else t.sendPair b.segments.1 b.segments.2 s)
      = answer at hcall ⊢
    generalize (if b.segments.2.isEmpty then t'.send b.segments.1 u
      else t'.sendPair b.segments.1 b.segments.2 u)
      = answer' at hcall ⊢
    obtain ⟨r, s'⟩ := answer
    obtain ⟨r', u'⟩ := answer'
    obtain ⟨rfl, hafter⟩ : r = r' ∧ R s' u' := hcall
    cases r <;> exact ⟨rfl, rfl, hafter⟩

theorem fillRuns_simulated (runs total : Nat) (b : RingBuffer) {s : σ} {u : τ} (hR : R s u) :
    (fillRuns t runs total b s).1 = (fillRuns t' runs total b u).1
      ∧ (fillRuns t runs total b s).2.1 = (fillRuns t' runs total b u).2.1
      ∧ R (fillRuns t runs total b s).2.2 (fillRuns t' runs total b u).2.2 := by
  -- on the runs: the answers agree, so both transports go on or stop together
  induction runs generalizing total b s u with
  | zero => exact ⟨rfl, rfl, hR⟩
  | succ runs ih =>
      rw [fillRuns, fillRuns]
      split
      · exact ⟨rfl, rfl, hR⟩
      · obtain ⟨hanswer, hafter⟩ := hsim.recv b.freeRun s u hR
        rcases hrecv : t.recv b.freeRun s with ⟨r, s'⟩
        rcases hrecv' : t'.recv b.freeRun u with ⟨r', u'⟩
        rw [hrecv, hrecv'] at hanswer hafter
        obtain rfl : r = r' := hanswer
        rcases r with e | data | - | -
        · exact ⟨rfl, rfl, hafter⟩
        · dsimp only
          split
          · exact ⟨rfl, rfl, hafter⟩
          · exact ih _ _ hafter
        · exact ⟨rfl, rfl, hafter⟩
        · exact ⟨rfl, rfl, hafter⟩

end

end RingBuffer

/-! ## Sockets -/

/-- Nothing but one stream and the log has changed. -/
structure Host.Touches (h : Host) (i : Nat) (s : Stream) (h' : Host) : Prop where
  on : h.On i s h'
  memory : h'.memory = h.memory

theorem Host.Touches.trans {h h' h'' : Host} {i : Nat} {s s' : Stream} (hfirst : h.Touches i s h')
    (hsecond : h'.Touches i s' h'') : h.Touches i s' h'' :=
  ⟨hfirst.on.trans hsecond.on, hsecond.memory.trans hfirst.memory⟩

/-- No change is a change to the stream as it is. -/
theorem Host.Joins.touches {h : Host} {fd : Descriptor} {i : Nat} {s : Stream}
    (hjoins : h.Joins fd i s) :
    h.Touches i s h := ⟨hjoins.on, rfl⟩

namespace Socket

/-- What a failing call of the system is to the caller: one that would wait comes to nothing. -/
def outcome {α : Type} (name : String) (nothing : α) : Except Errno α → Except Error α
  | .ok a => .ok a
  | .error e => if e = .again then .ok nothing else .error (.os name e)

/-- The socket as a transport that has nothing but the stream. -/
def alone : Transport Stream where
  send data s := (outcome "send" 0 (s.send data).1, (s.send data).2)
  sendPair first second s :=
    (outcome "send" 0 (s.send (first ++ second)).1, (s.send (first ++ second)).2)
  recv room s := (outcome "recv" .wouldBlock (s.receive room).1, (s.receive room).2)

variable {h : Host} {i : Nat} {s : Stream}

/-- A host on which the descriptor joins a stream, and which differs in that stream and in the
    log only from another one. -/
structure Holds (fd : Descriptor) (i : Nat) (h h' : Host) (s : Stream) : Prop where
  joins : h'.Joins fd i s
  touches : h.Touches i s h'

theorem holds_refl {fd : Descriptor} (hjoins : h.Joins fd i s) : Holds fd i h h s :=
  ⟨hjoins, hjoins.touches⟩

/-- A call that touches the stream only leaves the two hosts related. -/
theorem Holds.after {fd : Descriptor} {h' h'' : Host} {s' : Stream} (hholds : Holds fd i h h' s)
    (htouches : h'.Touches i s' h'') : Holds fd i h h'' s' :=
  ⟨hholds.joins.after htouches.on, hholds.touches.trans htouches⟩

/-- A send answers from the stream alone and touches nothing else. -/
theorem send_alone (socket : Socket) (hjoins : h.Joins socket.fd i s) (data : Bytes) :
    (socket.send data h).1 = outcome "send" 0 (s.send data).1
      ∧ h.Touches i (s.send data).2 (socket.send data h).2 := by
  rw [send, hjoins.send]
  rcases s.send data with ⟨e | n, s'⟩
  · dsimp only [outcome]
    split <;> exact ⟨rfl, rfl, rfl⟩
  · exact ⟨rfl, rfl, rfl⟩

/-- A receive answers from the stream alone and touches nothing else. -/
theorem recv_alone (socket : Socket) (hjoins : h.Joins socket.fd i s) (room : Nat) :
    (socket.recv room h).1 = outcome "recv" .wouldBlock (s.receive room).1
      ∧ h.Touches i (s.receive room).2 (socket.recv room h).2 := by
  rw [recv, hjoins.recv]
  rcases s.receive room with ⟨e | arrival, s'⟩
  · dsimp only [outcome]
    split <;> exact ⟨rfl, rfl, rfl⟩
  · exact ⟨rfl, rfl, rfl⟩

/-- On whatever host, a socket answers as its stream does. -/
theorem alone_simulated (socket : Socket) (i : Nat) (h : Host) :
    socket.transport.Simulates alone (Holds socket.fd i h) where
  send := by
    intro data h' s hholds
    obtain ⟨hanswer, htouches⟩ := socket.send_alone hholds.joins data
    exact ⟨hanswer, hholds.after htouches⟩
  sendPair := by
    intro first second h' s hholds
    obtain ⟨hanswer, htouches⟩ := socket.send_alone hholds.joins (first ++ second)
    exact ⟨hanswer, hholds.after htouches⟩
  recv := by
    intro room h' s hholds
    obtain ⟨hanswer, htouches⟩ := socket.recv_alone hholds.joins room
    exact ⟨hanswer, hholds.after htouches⟩

end Socket

/-! ## Connections -/

namespace Connection

variable {C : Type} {h : Host} {i : Nat} {s : Stream}

/-- The flush of a connection answers from its output and its stream alone. -/
theorem flush_alone (c : Connection C) (hjoins : h.Joins c.fd i s) :
    ∃ h', c.flush h = ((c.output.flushTo Socket.alone s).1,
      { c with output := (c.output.flushTo Socket.alone s).2.1 }, h')
      ∧ h.Touches i (c.output.flushTo Socket.alone s).2.2 h' := by
  obtain ⟨hanswer, hbuffer, hholds⟩ :=
    c.output.flushTo_simulated (c.socket.alone_simulated i h) (Socket.holds_refl hjoins)
  refine ⟨_, ?_, hholds.touches⟩
  rw [flush, ← hanswer, ← hbuffer]

/-- The receive of a connection answers from its input and its stream alone. -/
theorem receive_alone (c : Connection C) (hjoins : h.Joins c.fd i s) :
    ∃ h', c.receive h = ((c.input.fillFrom Socket.alone s).1,
      { c with input := (c.input.fillFrom Socket.alone s).2.1 }, h')
      ∧ h.Touches i (c.input.fillFrom Socket.alone s).2.2 h' := by
  obtain ⟨hanswer, hbuffer, hholds⟩ :=
    RingBuffer.fillRuns_simulated (c.socket.alone_simulated i h) 2 0 c.input
      (Socket.holds_refl hjoins)
  refine ⟨(c.input.fillFrom c.socket.transport h).2.2, ?_, hholds.touches⟩
  rw [receive, RingBuffer.fillFrom, RingBuffer.fillFrom, ← hanswer, ← hbuffer]

end Connection

end EventLoop
