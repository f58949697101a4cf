import EventLoop.Allocator
import EventLoop.Bytes
import EventLoop.Error

/-! # Byte transports

    What a buffer is flushed into and filled from. A transport never waits: one that can
    take nothing now takes no bytes, one that has nothing now says so, and failures mean a
    broken connection.

    `Transport.joining` supplies the write of two runs for a transport that has only a plain
    one. -/

namespace EventLoop

/-- The outcome of filling a buffer. -/
inductive Fill where
  /-- This many bytes were received; none only when there was no room. -/
  | read (count : Nat)
  /-- Nothing is there now. -/
  | wouldBlock
  /-- The peer sends no more. -/
  | closed
  deriving DecidableEq, Repr

/-- What a single receive delivers. -/
inductive Arrival where
  | bytes (data : Bytes)
  | wouldBlock
  | closed
  deriving DecidableEq, Repr

/-- A sink and source of bytes with state `σ`. -/
structure Transport (σ : Type) where
  /-- Offer bytes; the answer is how many, from the front, were taken. -/
  send : Bytes → σ → Except Error Nat × σ
  /-- Offer two runs as one write. -/
  sendPair : Bytes → Bytes → σ → Except Error Nat × σ
  /-- Receive into room for a number of bytes. -/
  recv : Nat → σ → Except Error Arrival × σ

namespace Transport

variable {σ : Type}

/-- Write two runs by joining them in a temporary and sending that once. Without memory for the
    temporary nothing is sent; an empty second run needs none. -/
def joinPair (send : Bytes → σ → Except Error Nat × σ) (request : Nat → σ → Bool × σ)
    (first second : Bytes) (s : σ) : Except Error Nat × σ :=
  if second.isEmpty then send first s
  else
    let total := first.length + second.length
    match request total s with
    | (true, s) => send (first ++ second) s
    | (false, s) => (.error (.outOfMemory total), s)

/-- A transport without a write of two runs of its own. -/
def joining (send : Bytes → σ → Except Error Nat × σ) (recv : Nat → σ → Except Error Arrival × σ)
    (request : Nat → σ → Bool × σ) : Transport σ where
  send := send
  sendPair := joinPair send request
  recv := recv

/-- A transport keeps its contract when it takes no more than it was offered and delivers no more
    than there is room for. -/
structure Honest (t : Transport σ) : Prop where
  send_le : ∀ data s n s', t.send data s = (.ok n, s') → n ≤ data.length
  sendPair_le : ∀ first second s n s', t.sendPair first second s = (.ok n, s') →
    n ≤ first.length + second.length
  recv_le : ∀ room s data s', t.recv room s = (.ok (.bytes data), s') → data.length ≤ room

end Transport

end EventLoop
