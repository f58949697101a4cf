import EventLoop.RingBuffer.Basic
import EventLoop.Transport

/-! # Flushing and filling ring buffers

    A flush offers everything that is held in one write and drops what the transport took. A
    fill receives into the free run behind the data and, when that was filled, into the free
    run at the front of the storage. Bytes that arrived win over a failure met after them. -/

namespace EventLoop.RingBuffer

variable {σ : Type}

/-- Offer the held bytes to a transport and drop the ones it took. An empty buffer makes no call. -/
def flushTo (t : Transport σ) (b : RingBuffer) (s : σ) : Except Error Nat × RingBuffer × σ :=
  if b.isEmpty then (.ok 0, b, s)
  else
    let (first, second) := b.segments
    match (if second.isEmpty then t.send first s else t.sendPair first second s) with
    | (.ok sent, s) => (.ok (b.consume sent).1, (b.consume sent).2, s)
    | (.error e, s) => (.error e, b, s)

/-- Length of the free run at the next write: up to the end of the free space or of the storage. -/
def freeRun (b : RingBuffer) : Nat := min b.available (b.capacity - b.position b.head)

/-- Take in bytes that were received at the next write. -/
def commit (b : RingBuffer) (data : Bytes) : RingBuffer :=
  { b with storage := overwrite b.storage (b.position b.head) data, head := b.head + data.length }

/-- Receive into at most `runs` free runs, after `total` bytes that have arrived already. -/
def fillRuns (t : Transport σ) : Nat → Nat → RingBuffer → σ → Except Error Fill × RingBuffer × σ
  | 0, total, b, s => (.ok (.read total), b, s)
  | runs + 1, total, b, s =>
    if b.available = 0 then (.ok (.read total), b, s)
    else match t.recv b.freeRun s with
      | (.ok (.bytes data), s) =>
        if data.length < b.freeRun then (.ok (.read (total + data.length)), b.commit data, s)
        else fillRuns t runs (total + data.length) (b.commit data) s
      | (.ok .wouldBlock, s) => (.ok (if total = 0 then .wouldBlock else .read total), b, s)
      | (.ok .closed, s) => (.ok (if total = 0 then .closed else .read total), b, s)
      | (.error e, s) => (if total = 0 then .error e else .ok (.read total), b, s)

/-- Receive from a transport into the free space: one run, or two when the free space wraps. -/
def fillFrom (t : Transport σ) (b : RingBuffer) (s : σ) : Except Error Fill × RingBuffer × σ :=
  fillRuns t 2 0 b s

end EventLoop.RingBuffer
