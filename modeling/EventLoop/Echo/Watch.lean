import EventLoop.Connection

/-! # What an echo connection watches

    Three bits of a connection's status: whether it is closing, and which of the two
    directions it watches. Reading stops while the input is full or after the end of the
    stream, since readiness would be reported on every wait with nothing to take. Writing is
    watched only while something waits to go out. -/

namespace EventLoop.Echo

/-- The peer has sent everything; close once all of it went back. -/
def closing : Status := 1

/-- Readability is part of the interest. -/
def watchRead : Status := 2

/-- Writability is part of the interest. -/
def watchWrite : Status := 4

/-- Both directions. -/
def watchMask : Status := watchRead ||| watchWrite

/-- Seconds between two lines of counters. -/
def statsInterval : Nat := 5

/-- Some bit of a mask is set. -/
def has (status mask : Status) : Bool := status &&& mask != 0

/-- The directions that a connection should watch. -/
def wantedWatch (status : Status) (inputFull backlog : Bool) : Status :=
  (if !has status closing && !inputFull then watchRead else 0)
    ||| (if backlog then watchWrite else 0)

/-- The interest for the directions watched; a hangup is always of interest. -/
def interestFor (watch : Status) : EventMask :=
  EventMask.hangup ||| (if has watch watchRead then EventMask.readable else EventMask.empty)
    ||| (if has watch watchWrite then EventMask.writable else EventMask.empty)

end EventLoop.Echo
