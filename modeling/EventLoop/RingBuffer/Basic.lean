import EventLoop.Allocator
import EventLoop.Bytes
import EventLoop.Config
import EventLoop.Log.Level

/-! # Ring buffers

    A growable circular buffer of bytes. The storage has a power of two of bytes; `head` is
    the offset of the next write and `tail` that of the next read, and an offset lies in the
    storage at its remainder by the capacity.

    * The buffer is empty when the offsets agree and full when they differ by the capacity.
    * Once the tail passes the capacity both offsets drop by it, and a drained buffer starts
      at zero, so the tail stays below the capacity and the head below twice the capacity.
    * `toList` is the queue that the buffer stands for: the oldest byte first. -/

namespace EventLoop

/-- The least power of two that is at least `n`, if a machine word holds it. -/
def nextPowerOfTwo? (n : Nat) : Option Nat :=
  let power := if n ≤ 1 then 1 else 1 <<< ((n - 1).log2 + 1)
  if power ≤ maxWord then some power else none

/-- The storage with bytes written over it from a position on. -/
def overwrite (storage : Array UInt8) (start : Nat) : Bytes → Array UInt8
  | [] => storage
  | b :: rest => overwrite (storage.setIfInBounds start b) (start + 1) rest

/-- A circular buffer of bytes. -/
structure RingBuffer where
  storage : Array UInt8
  /-- Offset of the next write. -/
  head : Nat
  /-- Offset of the next read. -/
  tail : Nat
  deriving DecidableEq, Repr, Inhabited

namespace RingBuffer

/-- An empty buffer of `size` bytes. The size has to be a power of two, and its memory can be
    refused. -/
def create (size : Nat) (memory : Allocator) : Except Error RingBuffer × Allocator :=
  if !isPowerOfTwo size then (.error (.invalidCapacity size), memory)
  else match memory.request size with
    | (true, memory) => (.ok ⟨Array.replicate size 0, 0, 0⟩, memory)
    | (false, memory) => (.error (.outOfMemory size), memory)

/-- Bytes that fit in the storage. -/
def capacity (b : RingBuffer) : Nat := b.storage.size

/-- Bytes that are held. -/
def length (b : RingBuffer) : Nat := b.head - b.tail

/-- Bytes that still fit. -/
def available (b : RingBuffer) : Nat := b.capacity - b.length

/-- Nothing is held. -/
def isEmpty (b : RingBuffer) : Bool := b.head == b.tail

/-- Nothing more fits. -/
def isFull (b : RingBuffer) : Bool := b.length == b.capacity

/-- Where an offset lies in the storage. -/
def position (b : RingBuffer) (offset : Nat) : Nat := offset % b.capacity

/-- The stored bytes from one position up to another. -/
def slice (b : RingBuffer) (first last : Nat) : Bytes := (b.storage.extract first last).toList

/-- The held bytes as two runs in order. The second is empty unless the data passes the end of the
    storage. -/
def segments (b : RingBuffer) : Bytes × Bytes :=
  let start := b.position b.tail
  if b.length = 0 then ([], [])
  else if start + b.length ≤ b.capacity then (b.slice start (start + b.length), [])
  else (b.slice start b.capacity, b.slice 0 (b.length - (b.capacity - start)))

/-- The held bytes, oldest first. -/
def toList (b : RingBuffer) : Bytes := b.segments.1 ++ b.segments.2

/-- Store as much of the data as fits behind what is held: up to the end of the storage, then from
    its beginning. -/
def store (b : RingBuffer) (data : Bytes) : RingBuffer :=
  let count := min data.length b.available
  let start := b.position b.head
  let first := min count (b.capacity - start)
  { b with
    storage :=
      overwrite (overwrite b.storage start (data.take first)) 0 ((data.take count).drop first)
    head := b.head + count }

/-- Move the held bytes to the front of new storage: the least power of two of at least `wanted`
    bytes. -/
def grow (b : RingBuffer) (wanted : Nat) (memory : Allocator) :
    Except Error RingBuffer × Allocator :=
  match nextPowerOfTwo? wanted with
  | none => (.error (.outOfMemory wanted), memory)
  | some size =>
    match memory.request size with
    | (true, memory) => (.ok ⟨overwrite (Array.replicate size 0) 0 b.toList, b.length, 0⟩, memory)
    | (false, memory) => (.error (.outOfMemory size), memory)

/-- What an append did to the storage. -/
inductive Growth where
  | unchanged
  | grown (before after : Nat)
  | refused (wanted : Nat) (cause : Error)
  deriving DecidableEq, Repr

/-- What is logged about growth. -/
def Growth.notes : Growth → List Log.Note
  | unchanged => []
  | grown before after => [⟨.debug, s!"buffer grown {before} -> {after} bytes"⟩]
  | refused wanted cause => [⟨.error, s!"buffer growth to {wanted} bytes failed: {cause.message}"⟩]

/-- The outcome of an append. -/
structure Appended where
  /-- Bytes taken, from the front of the data. -/
  count : Nat
  buffer : RingBuffer
  growth : Growth
  memory : Allocator
  deriving DecidableEq, Repr

/-- Append data. Without growth as much is taken as fits; with growth everything is taken, unless
    the memory for it is refused, and then nothing is. -/
def append (b : RingBuffer) (data : Bytes) (allowGrow : Bool) (memory : Allocator) : Appended :=
  if data.isEmpty then ⟨0, b, .unchanged, memory⟩
  else if b.available < data.length && allowGrow then
    let wanted := min (b.length + data.length) maxWord
    match b.grow wanted memory with
    | (.ok larger, memory) =>
      ⟨min data.length larger.available, larger.store data,
        .grown b.capacity larger.capacity, memory⟩
    | (.error cause, memory) => ⟨0, b, .refused wanted cause, memory⟩
  else ⟨min data.length b.available, b.store data, .unchanged, memory⟩

/-- Bring the offsets back into their range. -/
def normalize (b : RingBuffer) : RingBuffer :=
  if b.head = b.tail then { b with head := 0, tail := 0 }
  else if b.capacity ≤ b.tail then
    { b with head := b.head - b.capacity, tail := b.tail - b.capacity }
  else b

/-- Drop the oldest bytes, at most `count`; the answer is how many there were to drop. -/
def consume (b : RingBuffer) (count : Nat) : Nat × RingBuffer :=
  let count := min count b.length
  (count, { b with tail := b.tail + count }.normalize)

/-- Take out the oldest bytes, at most `room`. -/
def read (b : RingBuffer) (room : Nat) : Bytes × RingBuffer :=
  let first := b.segments.1.take room
  let second := b.segments.2.take (room - first.length)
  (first ++ second, (b.consume (first.length + second.length)).2)

/-- Take out the oldest bytes into the front of a destination; the rest of it is left alone. -/
def readInto (b : RingBuffer) (destination : Bytes) : Nat × Bytes × RingBuffer :=
  let (data, b) := b.read destination.length
  (data.length, data ++ destination.drop data.length, b)

/-- Drop everything. -/
def clear (b : RingBuffer) : RingBuffer := { b with head := 0, tail := 0 }

/-- The buffer as a record: capacity and offsets. -/
def inspect (b : RingBuffer) : String :=
  Text.record "IoBuffer" [("capacity", toString b.capacity), ("head", toString b.head),
    ("tail", toString b.tail)]

end RingBuffer

end EventLoop
