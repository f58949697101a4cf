import EventLoop.Echo.Stats
import EventLoop.Echo.Watch

/-! # The turn of an echo connection

    What the server does with one ready connection: it receives, moves received bytes over
    to the output, and sends. The turn touches its own connection, the host and the
    counters, and answers whether the connection is kept.

    * A connection that failed is not kept, and counts as an error.
    * A connection whose peer is done is kept until everything went back to the peer. -/

namespace EventLoop.Echo

/-- Bytes that are moved at once. -/
def chunkSize : Nat := 4096

/-- Move received bytes to the output, chunk by chunk, in at most `passes` passes. -/
def pumpWithin {C : Type} : Nat → Connection C → Host → Connection C × Host
  | 0, c, h => (c, h)
  | passes + 1, c, h =>
    let room := min c.output.available chunkSize
    if room = 0 then (c, h)
    else match c.input.read room with
      | ([], input) => ({ c with input := input }, h)
      | (chunk, input) =>
        let (_, c, h) := { c with input := input }.queue chunk false h
        pumpWithin passes c h

/-- Move received bytes to the output, as many as fit without growing. Every pass but the last takes
    a byte at least, so there is no need for more passes than bytes and one. -/
def pump {C : Type} (c : Connection C) (h : Host) : Connection C × Host :=
  pumpWithin (c.input.length + 1) c h

/-- A connection during its turn, with the counters and the host. -/
structure Turn where
  connection : Connection Unit
  stats : Stats
  host : Host
  deriving DecidableEq, Repr

namespace Turn

/-- How a step of a turn ends: the connection goes on, or it failed and is to be closed. -/
abbrev Outcome := Except Turn Turn

/-- The connection failed. -/
def fail (t : Turn) : Outcome :=
  .error { t with stats := { t.stats with errors := t.stats.errors + 1 } }

/-- The connection failed in a transfer, which is logged. -/
def failIn (t : Turn) (transfer : String) (e : Error) : Outcome :=
  { t with host := t.host.log .debug s!"{transfer} fd {t.connection.fd}: {e.message}" }.fail

/-- The peer has sent everything. -/
def markClosing (t : Turn) : Turn :=
  { t with connection := { t.connection with status := t.connection.status ||| closing } }

/-- Bytes arrived. -/
def countReceived (t : Turn) (n : Nat) : Turn :=
  if n = 0 then t
  else { t with stats :=
    { t.stats with recvs := t.stats.recvs + 1, bytesIn := t.stats.bytesIn + n } }

/-- Bytes went out. -/
def countSent (t : Turn) (n : Nat) : Turn :=
  { t with stats := { t.stats with sends := t.stats.sends + 1, bytesOut := t.stats.bytesOut + n } }

/-- Receive if there may be something to receive; otherwise a hangup means that the peer is done. -/
def receive (events : EventMask) (t : Turn) : Outcome :=
  if events.isReadable && !has t.connection.status closing then
    match t.connection.receive t.host with
    | (.ok (.read n), c, h) => .ok ({ t with connection := c, host := h }.countReceived n)
    | (.ok .wouldBlock, c, h) => .ok { t with connection := c, host := h }
    | (.ok .closed, c, h) => .ok { t with connection := c, host := h }.markClosing
    | (.error e, c, h) => { t with connection := c, host := h }.failIn "recv" e
  else .ok (if events.isClosed then t.markClosing else t)

/-- Move received bytes to the output. -/
def pump (t : Turn) : Turn :=
  match Echo.pump t.connection t.host with
  | (c, h) => { t with connection := c, host := h }

/-- Send what waits, and use the room that this makes. -/
def send (t : Turn) : Outcome :=
  if t.connection.hasPendingOutput then
    match t.connection.flush t.host with
    | (.ok 0, c, h) => .ok { t with connection := c, host := h }
    | (.ok n, c, h) => .ok ({ t with connection := c, host := h }.countSent n).pump
    | (.error e, c, h) => { t with connection := c, host := h }.failIn "send" e
  else .ok t

/-- Something waits to go out. -/
def backlog (t : Turn) : Bool := t.connection.hasPendingOutput || !t.connection.input.isEmpty

/-- The peer is done and has everything back. -/
def isFinished (t : Turn) : Bool := has t.connection.status closing && !t.backlog

/-- Serve a ready connection. The answer is whether it is kept. -/
def serve (events : EventMask) (t : Turn) : Bool × Turn :=
  let outcome : Outcome :=
    if events.intersects (EventMask.error ||| EventMask.invalid) then t.fail
    else do (← t.receive events).pump.send
  match outcome with
  | .ok t => (!t.isFinished, t)
  | .error t => (false, t)

end Turn

end EventLoop.Echo
