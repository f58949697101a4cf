import EventLoop.Address
import EventLoop.EventMask
import EventLoop.Transport

/-! # Streams

    A stream joins an end held by this process with its peer. Its state is a ledger: all
    bytes that arrived from the peer and how many of them this end took, all bytes this end
    handed over and how many of them the peer collected. Beside it stand what the peer did
    to its end and the failure that an abrupt end leaves behind.

    * Bytes that arrived stay readable after any kind of end.
    * A pending failure is reported by one call, which spends it; afterwards a receive
      reports the end of the stream and a send that the pipe is broken.
    * The way to the peer takes as many bytes as its window says, so that a send may take
      only the front of what it is given. A peer whose window is shut makes sends wait;
      receives go on. -/

namespace EventLoop

/-- What carries a stream. -/
inductive Family where
  /-- A connection over the network. -/
  | tcp
  /-- A pair of ends on this host. -/
  | pair
  deriving DecidableEq, Repr, Inhabited

/-- What the peer did to its end. -/
inductive PeerEnd where
  /-- It may still send. -/
  | sending
  /-- It sends no more, but receives. -/
  | finished
  /-- It closed both directions. -/
  | gone
  deriving DecidableEq, Repr, Inhabited

/-- The failure of a stream that ended abruptly. -/
inductive Fault where
  /-- The stream did not end abruptly. -/
  | intact
  /-- The failure has not been reported yet. -/
  | pending (errno : Errno)
  /-- The failure has been reported. -/
  | spent
  deriving DecidableEq, Repr, Inhabited

/-- What this process did to its end. -/
inductive OwnEnd where
  /-- It is open. -/
  | held
  /-- It was closed with everything received. -/
  | closed
  /-- It was closed with bytes of the peer left unread, or before it was accepted. -/
  | aborted
  deriving DecidableEq, Repr, Inhabited

/-- A stream between this process and a peer. -/
structure Stream where
  family : Family
  /-- Address of the peer's end. -/
  peer : Address
  /-- All bytes the peer sent. -/
  arrived : Bytes
  /-- How many of them this end has taken. -/
  taken : Nat
  /-- All bytes handed over for the peer. -/
  handed : Bytes
  /-- How many of them the peer has collected. -/
  collected : Nat
  peerEnd : PeerEnd
  fault : Fault
  /-- How many more bytes the buffers on the way to the peer take; there may be no limit. -/
  window : Option Nat
  ownEnd : OwnEnd
  deriving DecidableEq, Repr

namespace Stream

/-- A stream on which nothing has happened. -/
def fresh (family : Family) (peer : Address) : Stream :=
  ⟨family, peer, [], 0, [], 0, .sending, .intact, none, .held⟩

/-- Bytes that arrived and were not taken. -/
def unread (s : Stream) : Bytes := s.arrived.drop s.taken

/-- Bytes handed over that the peer has not collected. -/
def uncollected (s : Stream) : Bytes := s.handed.drop s.collected

/-- The peer does not read and all buffers are full. -/
def stalled (s : Stream) : Bool := s.window == some 0

/-- How many of some bytes the buffers take. -/
def admits (s : Stream) (count : Nat) : Nat := min count (s.window.getD count)

/-! ## The end of this process -/

/-- Take bytes that arrived. Without any, a pending reset is reported and spent, or else the end of
    the stream once the peer sends no more. Into no room nothing is taken, but an end of the stream
    shows as no bytes. -/
def receive (s : Stream) (room : Nat) : Except Errno Arrival × Stream :=
  let atEnd : Arrival := if room = 0 then .bytes [] else .closed
  if s.unread ≠ [] then
    (.ok (.bytes (s.unread.take room)), { s with taken := s.taken + min room s.unread.length })
  else match s.fault with
    | .pending errno =>
      if errno = Errno.connectionReset then (.error errno, { s with fault := .spent })
      else (.ok atEnd, s)
    | .spent => (.ok atEnd, s)
    | .intact => (.ok (if s.peerEnd = .sending then .wouldBlock else atEnd), s)

/-- Hand bytes over for the peer: the front of them that the buffers take. A peer on the network
    that is gone accepts them once more and answers with a reset. -/
def send (s : Stream) (data : Bytes) : Except Errno Nat × Stream :=
  match s.family, s.fault with
  | .tcp, .pending errno => (.error errno, { s with fault := .spent })
  | .tcp, .spent => (.error .brokenPipe, s)
  | family, _ =>
    if family = .pair ∧ s.peerEnd = .gone then (.error .brokenPipe, s)
    else if s.stalled then (.error .again, s)
    else
      (.ok (s.admits data.length),
        { s with
          handed := s.handed ++ data.take (s.admits data.length)
          window := s.window.map (· - s.admits data.length)
          fault := if s.peerEnd = .gone ∧ data ≠ [] then .pending .brokenPipe else s.fault })

/-- Close this end. -/
def close (s : Stream) : Stream :=
  { s with ownEnd := if s.unread = [] then .closed else .aborted }

/-- Close this end before anybody held it. -/
def abort (s : Stream) : Stream := { s with ownEnd := .aborted }

/-- What a wait finds. After an abrupt end everything is ready and the peer is gone, and the failure
    shows while it is pending. -/
def condition (s : Stream) : EventMask :=
  let ended := EventMask.readable ||| EventMask.writable ||| EventMask.hangup
  match s.fault with
  | .pending _ => ended ||| EventMask.error
  | .spent => ended
  | .intact =>
    (if s.unread ≠ [] ∨ s.peerEnd ≠ .sending then EventMask.readable else EventMask.empty)
      ||| (if s.stalled then EventMask.empty else EventMask.writable)

/-! ## The peer's end -/

/-- How the peer sees the end of what it receives. -/
inductive Ending where
  | stillOpen
  | eof
  | reset
  deriving DecidableEq, Repr

/-- The peer sends bytes. -/
def peerSend (s : Stream) (data : Bytes) : Stream := { s with arrived := s.arrived ++ data }

/-- The peer collects everything handed over so far. -/
def peerReceive (s : Stream) : Bytes × Ending × Stream :=
  let ending := match s.ownEnd with
    | .held => .stillOpen
    | .closed => .eof
    | .aborted => .reset
  (s.uncollected, ending, { s with collected := s.handed.length })

/-- The peer sends no more. -/
def peerShutdown (s : Stream) : Stream :=
  { s with peerEnd := if s.peerEnd = .sending then .finished else s.peerEnd }

/-- Something handed over lies uncollected: bytes of this end, or what fills the buffers of a
    stalled peer. -/
def isOwing (s : Stream) : Bool := s.stalled || s.uncollected ≠ []

/-- The peer closes its end. On a pair this leaves a reset behind if something lies uncollected. -/
def peerClose (s : Stream) : Stream :=
  { s with
    peerEnd := .gone
    fault := if s.family = .pair ∧ s.isOwing then .pending .connectionReset else s.fault }

/-- The peer ends the stream abruptly. -/
def peerReset (s : Stream) : Stream :=
  { s with peerEnd := .gone, fault := .pending .connectionReset }

/-- The peer reads, or stops reading: from now on the buffers take so many bytes. -/
def setWindow (s : Stream) (window : Option Nat) : Stream := { s with window := window }

/-- The peer stops reading altogether, or reads again whatever comes. -/
def setStalled (s : Stream) (stalled : Bool) : Stream :=
  s.setWindow (if stalled then some 0 else none)

end Stream

end EventLoop
