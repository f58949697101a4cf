import EventLoop.Socket

/-! # Connections

    A connection owns the socket of one client and two buffers: what was received and waits
    for the application, and what the application staged and waits for the socket. -/

namespace EventLoop

/-- The state tag that an application keeps with a connection. -/
abbrev Status := BitVec 32

/-- Data of the application's choice. -/
inductive UserData where
  | number (n : UInt64)
  | text (s : String)
  deriving DecidableEq, Repr

/-- The connection to a client. `C` names the handlers that ready events can go to. -/
structure Connection (C : Type) where
  /-- Unlike the descriptor, an id is never used twice by a server. -/
  id : Nat
  socket : Socket
  /-- Address of the client. -/
  peer : Address
  /-- Address of the listener that it came through. -/
  listenerAddress : Address
  input : RingBuffer
  output : RingBuffer
  handler : C
  status : Status
  userData : Option UserData
  deriving DecidableEq, Repr

namespace Connection

variable {C : Type}

/-- A connection on an accepted socket, with two buffers of a given size. Without memory for
    them the socket is closed. -/
def create (id : Nat) (socket : Socket) (peer listenerAddress : Address)
    (bufferSize : Nat) (handler : C) (h : Host) : Except Error (Connection C) × Host :=
  match RingBuffer.create bufferSize h.memory with
  | (.error e, memory) =>
    (.error e, ({ h with memory := memory }.log .error
      s!"input buffer for fd {socket.fd}: {e.message}").close socket.fd)
  | (.ok input, memory) =>
    match RingBuffer.create bufferSize memory with
    | (.error e, memory) =>
      (.error e, ({ h with memory := memory }.log .error
        s!"output buffer for fd {socket.fd}: {e.message}").close socket.fd)
    | (.ok output, memory) =>
      (.ok ⟨id, socket, peer, listenerAddress, input, output, handler, 0, none⟩,
        { h with memory := memory })

/-- The descriptor of the socket. -/
def fd (c : Connection C) : Descriptor := c.socket.fd

/-- Something is staged and waits for the socket. -/
def hasPendingOutput (c : Connection C) : Bool := !c.output.isEmpty

/-- Stage bytes for sending; the answer is how many were taken. -/
def queue (c : Connection C) (data : Bytes) (allowGrow : Bool) (h : Host) :
    Nat × Connection C × Host :=
  let r := c.output.append data allowGrow h.memory
  (r.count, { c with output := r.buffer }, { h with memory := r.memory }.logAll r.growth.notes)

/-- Send as much staged output as the socket takes now. -/
def flush (c : Connection C) (h : Host) : Except Error Nat × Connection C × Host :=
  match c.output.flushTo c.socket.transport h with
  | (r, output, h) => (r, { c with output := output }, h)

/-- Receive what the socket has into the input. -/
def receive (c : Connection C) (h : Host) : Except Error Fill × Connection C × Host :=
  match c.input.fillFrom c.socket.transport h with
  | (r, input, h) => (r, { c with input := input }, h)

/-- The connection as a record. -/
def inspect (c : Connection C) : String :=
  Text.record "Connection" [("id", toString c.id), ("fd", toString c.fd), ("peer", c.peer.text),
    ("status", toString c.status.toNat), ("input", c.input.inspect), ("output", c.output.inspect)]

end Connection

end EventLoop
