import EventLoop.Address
import EventLoop.Socket

/-! # Listeners

    A listener is a bound socket that clients connect to. Whatever was opened for it is
    closed again when a later step of its making fails.

    An accept that a signal interrupts is made again, as a send and a receive on a socket
    are. A call of the system stands for all of its attempts here, so that none of the three
    fails for a signal. -/

namespace EventLoop

/-- A bound, listening socket that does not wait. -/
structure Listener where
  fd : Descriptor
  /-- The address it was bound to, with the port that the system chose for port 0. -/
  address : Address
  deriving DecidableEq, Repr

namespace Listener

/-- Run a step on a descriptor that was just opened; it is closed again if the step fails. -/
def guarded {α : Type} (fd : Descriptor) (step : Except Error α × Host) : Except Error α × Host :=
  match step with
  | (.ok a, h) => (.ok a, h)
  | (.error e, h) => (.error e, h.close fd)

/-- Let a new socket listen on an address: bind it, let it listen, and keep it from waiting. The
    answer is the address it was bound to. -/
def prepare (fd : Descriptor) (address : Address) (h : Host) : Except Error Address × Host :=
  match h.call "setsockopt(SO_REUSEADDR)" (·.reuseAddress fd) with
  | (.error e, h) => (.error e, h)
  | (.ok _, h) =>
    match h.call "bind" (·.bind fd address) with
    | (.error e, h) => (.error e, h)
    | (.ok _, h) =>
      match h.call "listen" (·.listen fd) with
      | (.error e, h) => (.error e, h)
      | (.ok _, h) =>
        match h.setNonblocking fd with
        | (.error e, h) => (.error e, h)
        | (.ok _, h) => h.call "getsockname" (·.ownAddress fd)

/-- Listen on an address with a socket of its own. -/
def bindAddress (address : Address) (h : Host) : Except Error Listener × Host :=
  match h.call "socket" Kernel.socket with
  | (.error e, h) => (.error e, h)
  | (.ok fd, h) =>
    match guarded fd (prepare fd address h) with
    | (.error e, h) => (.error e, h)
    | (.ok bound, h) => (.ok ⟨fd, bound⟩, h.log .debug s!"listener fd {fd} bound to {bound.text}")

/-- Listen on a written address; a text that is no address opens nothing. -/
def bind (address : String) (h : Host) : Except Error Listener × Host :=
  match Address.parse address with
  | .ok addr => bindAddress addr h
  | .error e => (.error e, h)

/-- Accept the first waiting client: its socket and its address. -/
def accept (l : Listener) (h : Host) : Except Error (Socket × Address) × Host :=
  match h.call "accept" (·.accept l.fd) with
  | (.ok (fd, peer), h) => (.ok (⟨fd⟩, peer), h)
  | (.error e, h) => (.error e, h)

/-- Accept the first waiting client under a given descriptor number. -/
def acceptAt (l : Listener) (fd : Descriptor) (h : Host) : Except Error (Socket × Address) × Host :=
  match h.call "accept" (·.acceptAt l.fd fd) with
  | (.ok (fd, peer), h) => (.ok (⟨fd⟩, peer), h)
  | (.error e, h) => (.error e, h)

/-- The listener as a record. -/
def inspect (l : Listener) : String :=
  Text.record "Listener" [("fd", toString l.fd), ("addr", l.address.text)]

end Listener

end EventLoop
