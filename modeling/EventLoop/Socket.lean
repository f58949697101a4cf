import EventLoop.Host
import EventLoop.RingBuffer.Transfer

/-! # Connected sockets

    A descriptor of a stream as a byte transport. A call that would have to wait moves no
    bytes; a failure is logged and names the call. A call that a signal interrupts is made
    again at once, and all of its attempts are one call here. -/

namespace EventLoop

/-- A connected socket; whoever holds it closes it. -/
structure Socket where
  fd : Descriptor
  deriving DecidableEq, Repr, Inhabited

namespace Socket

/-- Report a failed transfer. -/
def failed {α : Type} (s : Socket) (name : String) (e : Errno) (h : Host) : Except Error α × Host :=
  (.error (.os name e), h.log .error s!"{name} on fd {s.fd} failed: {e.text}")

/-- Send bytes; a socket that would wait takes none. -/
def send (s : Socket) (data : Bytes) (h : Host) : Except Error Nat × Host :=
  match h.kernel.send s.fd data with
  | (.ok n, k) => (.ok n, { h with kernel := k })
  | (.error e, k) =>
    if e = .again then (.ok 0, { h with kernel := k }) else s.failed "send" e { h with kernel := k }

/-- Send two runs in one call. -/
def sendPair (s : Socket) (first second : Bytes) (h : Host) : Except Error Nat × Host :=
  s.send (first ++ second) h

/-- Receive into room for a number of bytes. -/
def recv (s : Socket) (room : Nat) (h : Host) : Except Error Arrival × Host :=
  match h.kernel.recv s.fd room with
  | (.ok arrival, k) => (.ok arrival, { h with kernel := k })
  | (.error e, k) =>
    if e = .again then (.ok .wouldBlock, { h with kernel := k })
    else s.failed "recv" e { h with kernel := k }

/-- The socket as a transport. -/
def transport (s : Socket) : Transport Host := ⟨s.send, s.sendPair, s.recv⟩

/-- Receive into the front of a destination; the rest of it is left alone. -/
def recvInto (s : Socket) (destination : Bytes) (h : Host) : Except Error Fill × Bytes × Host :=
  match s.recv destination.length h with
  | (.ok (.bytes data), h) => (.ok (.read data.length), data ++ destination.drop data.length, h)
  | (.ok .wouldBlock, h) => (.ok .wouldBlock, destination, h)
  | (.ok .closed, h) => (.ok .closed, destination, h)
  | (.error e, h) => (.error e, destination, h)

/-- The socket as a record. -/
def inspect (s : Socket) : String :=
  Text.record "Socket" [("fd", Text.record "OwnedFd" [("fd", toString s.fd)])]

end Socket

end EventLoop
