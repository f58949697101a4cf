import EventLoop.Server.Poll

/-! # Sessions

    A session is what the handler of a connection holds: a descriptor, through which it
    reaches the connection under it. Using the connection after it was removed is a panic;
    asking whether it is there is not. -/

namespace EventLoop

/-- The hold of a handler on the connection under a descriptor. -/
structure Session where
  fd : Descriptor
  deriving DecidableEq, Repr

namespace Session

variable {L C D : Type}

/-- The connection of the session; a panic when there is none. -/
def connection (s : Session) : Run L C D (Connection C) := do
  match (← get).server.connections.get? s.fd with
  | some c => pure c
  | none => throw (.sessionEnded s.fd)

/-- Change the connection of the session; a panic when there is none. -/
def update (s : Session) (f : Connection C → Connection C) : Run L C D Unit := do
  let _ ← s.connection (L := L) (C := C) (D := D)
  Application.onServer (·.onConnection s.fd f)

/-- There is a connection under the descriptor. -/
def isConnected (s : Session) : Run L C D Bool := return (← get).server.connections.contains s.fd

/-- Replace the interest of the connection. -/
def setInterest (s : Session) (interest : EventMask) : Run L C D (Except Error Unit) :=
  Application.run fun server h =>
    match server.setInterest s.fd interest with
    | .ok server => (.ok (), server, h)
    | .error e => (.error e, server, h)

/-- End the connection; the answer is whether there was one. -/
def disconnect (s : Session) : Run L C D Bool := Application.run (·.disconnect s.fd)

end Session

end EventLoop
