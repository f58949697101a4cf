import EventLoop.Transport

/-! # Rehearsed transports

    A transport whose behaviour is laid down beforehand and which records the calls made to
    it. -/

namespace EventLoop

/-- What a rehearsed receive finds next. -/
inductive Cue where
  | bytes (data : Bytes)
  | wouldBlock
  | closed
  | failure (errno : Errno)
  deriving DecidableEq, Repr

/-- A call made to a rehearsed transport. -/
inductive Call where
  | send (data : Bytes)
  | sendPair (first second : Bytes)
  | recv (room : Nat)
  deriving DecidableEq, Repr

/-- The state of a rehearsed transport. -/
structure Rehearsal where
  /-- Bytes that a send takes at most; all of them when not given. -/
  take : Option Nat
  /-- What every send fails with, if it does. -/
  failure : Option Errno
  /-- What the receives find, in order; nothing once the list is used up. -/
  cues : List Cue
  /-- The memory for joined writes. -/
  allocator : Allocator
  /-- The calls made so far, in order. -/
  calls : List Call
  deriving DecidableEq, Repr

namespace Rehearsal

/-- Send through the rehearsed transport: the first `take` bytes are taken. -/
def send (data : Bytes) (r : Rehearsal) : Except Error Nat × Rehearsal :=
  (match r.failure with
    | some errno => .error (.os "send" errno)
    | none => .ok (min data.length (r.take.getD data.length)),
    { r with calls := r.calls ++ [Call.send data] })

/-- Send two runs by one vectored write: the first `take` bytes of both are taken. -/
def sendVectored (first second : Bytes) (r : Rehearsal) : Except Error Nat × Rehearsal :=
  let total := first.length + second.length
  (match r.failure with
    | some errno => .error (.os "send" errno)
    | none => .ok (min total (r.take.getD total)),
    { r with calls := r.calls ++ [Call.sendPair first second] })

/-- Receive what the next cue says; bytes that do not fit stay as the next cue. -/
def recv (room : Nat) (r : Rehearsal) : Except Error Arrival × Rehearsal :=
  let r := { r with calls := r.calls ++ [Call.recv room] }
  match r.cues with
  | [] => (.ok .wouldBlock, r)
  | .wouldBlock :: rest => (.ok .wouldBlock, { r with cues := rest })
  | .closed :: rest => (.ok .closed, { r with cues := rest })
  | .failure errno :: rest => (.error (.os "recv" errno), { r with cues := rest })
  | .bytes data :: rest =>
    let left := data.drop room
    (.ok (.bytes (data.take room)),
      { r with cues := if left.isEmpty then rest else .bytes left :: rest })

/-- Ask for the memory of a joined write. -/
def request (bytes : Nat) (r : Rehearsal) : Bool × Rehearsal :=
  let (granted, allocator) := r.allocator.request bytes
  (granted, { r with allocator := allocator })

/-- The rehearsed transport that writes two runs by joining them. -/
def joining : Transport Rehearsal := Transport.joining send recv request

/-- The rehearsed transport with a vectored write. -/
def vectored : Transport Rehearsal := ⟨send, sendVectored, recv⟩

end Rehearsal

end EventLoop
