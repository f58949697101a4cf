import EventLoop.Proofs.Socket.Transfers

/-! # What becomes of a failure that a receive met

    A receive makes a second call where the free space of the input wraps and
    the first run of it was filled. A failure of the second call is not
    answered, since bytes that arrived win.

    * `Overlooks`: the two calls of such a receive.
    * `Resurfaces`: the next receive answers the failure.
    * `resurfaces_iff`: it never does. Only a reset can fail a call, reporting it
      spends it (`Receipt.reset`), and the next receive tells the end of the
      stream as if the peer had finished in order.

    What was met in the first call is answered at once. -/

namespace EventLoop

/-! ## One call -/

namespace Socket

variable {socket : Socket} {h h' : Host} {i room : Nat} {s : Stream} {data : Bytes}

/-- What a receive comes to on a stream. -/
inductive Receipt (socket : Socket) (h : Host) (i : Nat) (s : Stream) :
    Except Error Arrival × Host → Prop
  /-- The call came back with what the stream delivers. -/
  | delivered {arrival : Arrival} {s' : Stream} (hdelivers : s.Delivers (.ok arrival) s') :
      Receipt socket h i s (.ok arrival, { h with kernel := h.kernel.setStream i s' })
  /-- A pending reset was reported, which spends it. -/
  | reset (hunread : s.unread = []) :
      Receipt socket h i s (.error (.os "recv" .connectionReset),
        ({ h with kernel := h.kernel.setStream i { s with fault := .spent } } : Host).log .error
          s!"recv on fd {socket.fd} failed: {Errno.connectionReset.text}")

/-- A receive with room comes to one of four things, whatever the stream. -/
theorem recv_receipt (hjoins : h.Joins socket.fd i s) (hroom : 0 < room) :
    socket.Receipt h i s (socket.recv room h) := by
  have hdelivers := s.receive_delivers hroom
  rw [recv, hjoins.recv]
  rcases hresult : s.receive room with ⟨e | arrival, s'⟩
  · rw [hresult] at hdelivers
    cases hdelivers with
    | failed hunread _ => exact .reset hunread
  · rw [hresult] at hdelivers
    cases arrival <;> exact .delivered hdelivers

/-- Only an end of a stream brings bytes. -/
theorem joins_of_bytes (hrecv : socket.recv room h = (.ok (.bytes data), h')) :
    ∃ i s, h.Joins socket.fd i s := by
  cases hstream : h.kernel.stream? socket.fd with
  | some s =>
      obtain ⟨i, hindex, hget⟩ := Kernel.stream?_eq_some_iff.mp hstream
      exact ⟨i, s, hindex, hget⟩
  | none =>
      have hcall : h.kernel.recv socket.fd room = (.error .badDescriptor, h.kernel) := by
        rw [Kernel.recv]
        split
        · next index hfile =>
            rw [Kernel.stream?, Kernel.index?_eq_some_iff.mpr hfile, Option.bind_some] at hstream
            rw [hstream]
        · rfl
      rw [recv, hcall] at hrecv
      cases hrecv

/-- The stream has ended, and there is no failure left to report. -/
theorem recv_of_spent (hjoins : h.Joins socket.fd i s) (hroom : 0 < room) (hunread : s.unread = [])
    (hspent : s.fault = .spent) : socket.recv room h = (.ok .closed, h) := by
  have hreceive : s.receive room = (.ok .closed, s) := by
    rw [Stream.receive, if_neg (Nat.ne_of_gt hroom), if_neg (not_not_intro hunread), hspent]
  have hsame : h.kernel.setStream i s = h.kernel := hjoins.on.symm
  rw [recv, hjoins.recv, hreceive, hsame]

end Socket

/-! ## The calls of a receive -/

namespace Connection

variable {C : Type} {c : Connection C} {h h' : Host} {data : Bytes} {e : Error}

/-- A receive filled the first of two free runs, and its call for the second one failed. -/
structure Overlooks (c : Connection C) (h : Host) (data : Bytes) (e : Error) (h' : Host) :
    Prop where
  room : c.input.available ≠ 0
  more : (c.input.commit data).available ≠ 0
  all : data.length = c.input.freeRun
  calls : ∃ between, c.socket.recv c.input.freeRun h = (.ok (.bytes data), between)
    ∧ c.socket.recv (c.input.commit data).freeRun between = (.error e, h')

/-- A failure that a receive overlooked is the answer of the next one with room on this connection,
    when nothing happened in the system in between. -/
def Resurfaces (c : Connection C) (h : Host) : Prop :=
  ∀ data e h', c.Overlooks h data e h' → ∀ (later : Connection C) (host : Host),
    later.socket = c.socket → later.input.available ≠ 0 → host.kernel = h'.kernel →
      (later.receive host).1 = .error e

/-- The receive answers the bytes that it took in. -/
theorem Overlooks.answer (hmet : c.Overlooks h data e h') :
    c.receive h = (.ok (.read data.length), { c with input := c.input.commit data }, h') := by
  obtain ⟨between, hfirst, hsecond⟩ := hmet.calls
  have hsome : data.length ≠ 0 := by
    have hpos := RingBuffer.freeRun_pos hmet.room
    rw [hmet.all]
    omega
  have hfill : c.input.fillFrom c.socket.transport h
      = (.ok (.read data.length), c.input.commit data, h') := by
    rw [RingBuffer.fillFrom, RingBuffer.fillRuns, if_neg hmet.room,
      show c.socket.transport.recv c.input.freeRun h = _ from hfirst]
    simp only [if_neg (Nat.not_lt.mpr (Nat.le_of_eq hmet.all.symm)), Nat.zero_add]
    rw [RingBuffer.fillRuns, if_neg hmet.more,
      show c.socket.transport.recv (c.input.commit data).freeRun between = _ from hsecond]
    simp only [if_neg hsome]
  rw [receive, hfill]

/-- What was overlooked is a reset. It is spent now, and only the log tells of it. -/
theorem Overlooks.spent (hmet : c.Overlooks h data e h') :
    e = .os "recv" .connectionReset
      ∧ h'.logger = h.logger.log .error s!"recv on fd {c.fd} failed: {Errno.connectionReset.text}"
      ∧ ∃ i s, h'.Joins c.fd i s ∧ s.unread = [] ∧ s.fault = .spent := by
  obtain ⟨between, hfirst, hsecond⟩ := hmet.calls
  obtain ⟨i, s, hjoins⟩ := Socket.joins_of_bytes hfirst
  have hreceipt := Socket.recv_receipt hjoins (RingBuffer.freeRun_pos hmet.room)
  rw [hfirst] at hreceipt
  cases hreceipt with
  | @delivered _ s' _ =>
      have hjoins' : Host.Joins { h with kernel := h.kernel.setStream i s' } c.fd i s' :=
        hjoins.after rfl
      have hreceipt' := Socket.recv_receipt hjoins' (RingBuffer.freeRun_pos hmet.more)
      rw [hsecond] at hreceipt'
      cases hreceipt' with
      | reset hunread => exact ⟨rfl, rfl, i, _, hjoins'.after rfl, hunread, rfl⟩

/-- Where the first call brings no bytes, what it came to is the answer. -/
theorem receive_of_first {r : Except Error Arrival} (hroom : c.input.available ≠ 0)
    (hrecv : c.socket.recv c.input.freeRun h = (r, h')) (hnothing : ∀ data, r ≠ .ok (.bytes data)) :
    c.receive h = (r.map Arrival.answer, c, h') := by
  rw [receive, RingBuffer.fillFrom_of_nothing (t := c.socket.transport) hroom hrecv hnothing]

/-- After a failure was overlooked, receives tell the end of the stream. -/
theorem Overlooks.next (hmet : c.Overlooks h data e h') {later : Connection C} {host : Host}
    (hsocket : later.socket = c.socket) (hroom : later.input.available ≠ 0)
    (hkernel : host.kernel = h'.kernel) : later.receive host = (.ok .closed, later, host) := by
  obtain ⟨_, _, i, s, hjoins, hunread, hspent⟩ := hmet.spent
  have hlater : host.Joins later.socket.fd i s := by
    rw [hsocket]
    exact ⟨hkernel ▸ hjoins.index, hkernel ▸ hjoins.stream⟩
  exact receive_of_first hroom
    (Socket.recv_of_spent hlater (RingBuffer.freeRun_pos hroom) hunread hspent)
      (fun _ h => by cases h)

end Connection

/-! ## A reset behind a run that was filled -/

namespace Severed

/-- The peer sent two bytes and closed its end, with a byte of this end uncollected. -/
def host : Host :=
  let joined := (Kernel.fresh .isolated).socketPair.2
  let sent := (joined.send 3 [255]).2
  { Host.fresh .isolated (.withLevel .off) with
    kernel := (sent.onStream 0 (·.peerSend [10, 11])).onStream 0 Stream.peerClose }

/-- Two bytes fit behind those that the input holds, and four at the front of the storage. -/
def input : RingBuffer := (((RingBuffer.blank 8).store [0, 1, 2, 3, 4, 5]).consume 4).2

theorem input_wellFormed : input.WellFormed :=
  RingBuffer.consume_wellFormed
    (RingBuffer.store_wellFormed (RingBuffer.blank_wellFormed ⟨3, rfl⟩) _) 4

def connection : Connection Unit :=
  ⟨1, ⟨3⟩, ⟨.unspecified, 0⟩, ⟨.unspecified, 0⟩, input, .blank 8, (), 0, none⟩

/-- The host after the two bytes were taken. -/
def between : Host := (connection.socket.recv 2 host).2

/-- The host after the reset was met. -/
def after : Host := (connection.socket.recv 4 between).2

/-- The connection after the receive. -/
def filled : Connection Unit := { connection with input := input.commit [10, 11] }

/-- The reset is met behind the two bytes, by the call for the second run. -/
theorem overlooks : connection.Overlooks host [10, 11] (.os "recv" .connectionReset) after where
  room := by decide
  more := by decide
  all := by decide
  calls := ⟨between, rfl, rfl⟩

end Severed

/-! ## Failures that do not resurface -/

/-- A failure resurfaces only where none was overlooked. One that was overlooked is a reset; the
    receive that met it answers bytes, every later one the end of the stream. -/
theorem Connection.resurfaces_iff {C : Type} (c : Connection C) (h : Host) :
    (c.Resurfaces h ↔ ∀ data e h', ¬ c.Overlooks h data e h')
    ∧ (∀ data e h', c.Overlooks h data e h' →
        e = .os "recv" .connectionReset
        ∧ c.receive h = (.ok (.read data.length), { c with input := c.input.commit data }, h')
        ∧ h'.logger = h.logger.log .error s!"recv on fd {c.fd} failed: {Errno.connectionReset.text}"
        ∧ ∀ (later : Connection C) (host : Host), later.socket = c.socket →
          later.input.available ≠ 0 →
            host.kernel = h'.kernel → later.receive host = (.ok .closed, later, host))
    ∧ (∀ e h', c.input.available ≠ 0 → c.socket.recv c.input.freeRun h = (.error e, h') →
        c.receive h = (.error e, c, h')) := by
  refine ⟨⟨fun hresurfaces data e h' hmet => ?_, fun hnone data e h' hmet => ?_⟩,
    fun data e h' hmet => ?_, fun e h' hroom hrecv => ?_⟩
  · -- the next receive may follow at once, since the second run is still free
    let later : Connection C := { c with input := c.input.commit data }
    have herror := hresurfaces data e h' hmet later h' rfl hmet.more rfl
    have hclosed : later.receive h' = (.ok .closed, later, h') := hmet.next rfl hmet.more rfl
    rw [hclosed] at herror
    cases herror
  · exact absurd hmet (hnone data e h')
  · exact ⟨hmet.spent.1, hmet.answer, hmet.spent.2.1, fun _ _ hsocket hroom hkernel =>
      hmet.next hsocket hroom hkernel⟩
  · exact Connection.receive_of_first hroom hrecv (fun _ h => by cases h)

/-- The two bytes came first, the reset went unsaid, and the next receive answers that the
    stream is closed. -/
theorem resurfaces_iff_severed :
    Severed.connection.Overlooks Severed.host [10, 11] (.os "recv" .connectionReset) Severed.after
      ∧ ¬ Severed.connection.Resurfaces Severed.host
      ∧ Severed.connection.receive Severed.host = (.ok (.read 2), Severed.filled, Severed.after)
      ∧ Severed.filled.receive Severed.after = (.ok .closed, Severed.filled, Severed.after) := by
  obtain ⟨hiff, hmet, -⟩ := Connection.resurfaces_iff Severed.connection Severed.host
  obtain ⟨-, hanswer, -, hnext⟩ := hmet _ _ _ Severed.overlooks
  refine ⟨Severed.overlooks, fun hresurfaces => ?_, hanswer, hnext _ _ rfl (by decide) rfl⟩
  exact hiff.mp hresurfaces _ _ _ Severed.overlooks

/-- So failures do not resurface on all connections, whatever the layout of their input. -/
theorem not_all_failures_resurface :
    ¬ ∀ (c : Connection Unit) (h : Host), c.input.WellFormed → c.Resurfaces h := by
  intro hall
  have herror :=
    hall Severed.connection Severed.host Severed.input_wellFormed _ _ _ Severed.overlooks
    Severed.filled Severed.after rfl (by decide) rfl
  have hclosed : Severed.filled.receive Severed.after = (.ok .closed, Severed.filled,
      Severed.after) :=
    Severed.overlooks.next rfl (by decide) rfl
  rw [hclosed] at herror
  cases herror

end EventLoop
