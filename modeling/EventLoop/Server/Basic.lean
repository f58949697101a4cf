import EventLoop.Connection
import EventLoop.Listener
import EventLoop.PollSet.Wait

/-! # Servers

    A server owns a listener, a readiness set and a table of connections. The listener is
    the first entry of the readiness set; the connections follow in the order in which they
    were accepted, and each of them has its entry as long as it is in the table.

    * `bind` opens a listener or leaves nothing open.
    * `accept` adds a connection to table and set, or to neither.
    * `disconnect` removes it from both and closes its socket.
    * `cleanup` removes everything; afterwards the server is not bound. -/

namespace EventLoop

/-- A connection that was ready when a wait returned, and what it was ready for. -/
structure Ready where
  fd : Descriptor
  id : Nat
  events : EventMask
  deriving DecidableEq, Repr

/-- A server. `L` and `C` name the handlers of the listener and of connections. -/
structure Server (L C : Type) where
  config : Config
  /-- Nothing once the server was cleaned up. -/
  listener : Option Listener
  localAddress : Address
  polled : PollSet
  connections : DescriptorTable (Connection C)
  handler : L
  userData : Option UserData
  /-- The id of the next connection, one more than were accepted so far. A word holds it as long as
      fewer than 2 ^ 64 - 1 were. -/
  nextId : Nat
  /-- The connections that the current round still has to serve. -/
  ready : List Ready
  deriving DecidableEq, Repr

namespace Server

variable {L C : Type}

/-- Listen on an address and watch the listener. -/
def bind (address : String) (handler : L) (config : Config) (h : Host) :
    Except Error (Server L C) × Host :=
  match config.validate with
  | .error e => (.error e, h)
  | .ok _ =>
    match Listener.bind address h with
    | (.error e, h) => (.error e, h.log .error s!"bind {address}: {e.message}")
    | (.ok listener, h) =>
      match PollSet.create config.pollCapacity h.memory with
      | (.error e, memory) => (.error e, { h with memory := memory }.close listener.fd)
      | (.ok polled, memory) =>
        let h := { h with memory := memory }
        match (polled.setTimeout config.pollTimeout).add listener.fd .listener with
        | .error e => (.error e, h.close listener.fd)
        | .ok polled =>
          (.ok ⟨config, some listener, listener.address, polled, .empty, handler, none, 1, []⟩,
            h.log .info s!"listening on {listener.address.text} (max {config.maxClients} clients)")

/-- Register an accepted socket as a connection, or close it. -/
def register (s : Server L C) (socket : Socket) (peer : Address) (handler : C) (h : Host) :
    Except Error Descriptor × Server L C × Host :=
  let fd := socket.fd
  if s.connections.contains fd then
    (.error (.duplicateDescriptor fd), s,
      (h.log .error s!"accepted fd {fd} is already a live connection").close fd)
  else
    match Connection.create s.nextId socket peer s.localAddress s.config.bufferSize handler h with
    | (.error e, h) => (.error e, s, h)
    | (.ok connection, h) =>
      match s.polled.add fd .connection with
      | .error e =>
        (.error e, s, (h.log .warn s!"rejecting {peer.text} on fd {fd}: {e.message}").close fd)
      | .ok polled =>
        match s.connections.insert fd connection with
        | .ok connections =>
          (.ok fd, { s with polled := polled, connections := connections, nextId := s.nextId + 1 },
            h.log .debug s!"accepted fd {fd} from {peer.text}")
        | .error e =>
          (.error e, { s with polled := (polled.remove fd).2 },
            (h.log .error s!"registering fd {fd}: {e.message}").close fd)

/-- Take a client from the listener by a given call and register it. -/
def acceptBy (take : Listener → Host → Except Error (Socket × Address) × Host)
    (s : Server L C) (handler : C) (h : Host) : Except Error Descriptor × Server L C × Host :=
  match s.listener with
  | none => (.error .notBound, s, h)
  | some listener =>
    match take listener h with
    | (.error e, h) =>
      (.error e, s, if e.isWouldBlock then h else h.log .warn s!"accept: {e.message}")
    | (.ok (socket, peer), h) =>
      match Listener.guarded socket.fd (h.setNonblocking socket.fd) with
      | (.error e, h) => (.error e, s, h)
      | (.ok _, h) => s.register socket peer handler h

/-- Accept the first waiting client; its events go to the given handler. The answer is the
    descriptor of the new connection. -/
def accept (s : Server L C) (handler : C) (h : Host) :
    Except Error Descriptor × Server L C × Host :=
  s.acceptBy Listener.accept handler h

/-- Accept the first waiting client under the descriptor number of a live connection, as if the
    system had lost track of it. A number without a connection changes nothing about accepting. -/
def acceptAt (s : Server L C) (fd : Descriptor) (handler : C) (h : Host) :
    Except Error Descriptor × Server L C × Host :=
  if s.connections.contains fd then s.acceptBy (fun listener => listener.acceptAt fd) handler h
  else s.accept handler h

/-- Remove a connection and close its socket; the answer is whether there was one. -/
def disconnect (s : Server L C) (fd : Descriptor) (h : Host) : Bool × Server L C × Host :=
  match s.connections.get? fd with
  | none => (false, s, h.log .trace s!"disconnect: fd {fd} not connected")
  | some c =>
    (true, { s with connections := s.connections.erase fd, polled := (s.polled.remove fd).2 },
      (h.log .debug s!"disconnected fd {fd} ({c.peer.text})").close c.fd)

/-- Replace the interest of a connection. -/
def setInterest (s : Server L C) (fd : Descriptor) (interest : EventMask) :
    Except Error (Server L C) :=
  if s.connections.contains fd then (s.polled.add fd interest).map fun polled =>
    { s with polled := polled }
  else .error (.unknownDescriptor fd)

/-- Close all connections and the listener and watch nothing any more. No handler is called. -/
def cleanup (s : Server L C) (h : Host) : Server L C × Host :=
  let count := s.connections.size
  let h := s.connections.entries.foldl (fun h (_, c) => h.close c.fd) h
  let cleaned := { s with connections := .empty, polled := s.polled.clear, listener := none }
  match s.listener with
  | some listener =>
    (cleaned, (h.close listener.fd).log .info
      s!"closed listener {s.localAddress.text} and {count} connection(s)")
  | none => (cleaned, h)

/-- The listener is open. -/
def isBound (s : Server L C) : Bool := s.listener.isSome

/-- Number of clients that wait to be accepted. -/
def pending (s : Server L C) (h : Host) : Nat :=
  (s.listener.map fun l => (h.kernel.queue l.fd).length).getD 0

/-- The port that clients connect to. -/
def port (s : Server L C) : UInt16 := s.localAddress.port

/-- Set how long a wait lasts. -/
def setTimeout (s : Server L C) (timeout : Int) : Server L C :=
  { s with polled := s.polled.setTimeout timeout }

/-- Change a connection, if there is one under the descriptor. -/
def onConnection (s : Server L C) (fd : Descriptor) (f : Connection C → Connection C) :
    Server L C :=
  { s with connections := s.connections.modify fd f }

/-- The server as a record. -/
def inspect (s : Server L C) : String :=
  Text.record "Server" [("local_addr", s.localAddress.text), ("bound", toString s.isBound),
    ("connections", toString s.connections.size), ("polled", s.polled.inspect)]

end Server

end EventLoop
