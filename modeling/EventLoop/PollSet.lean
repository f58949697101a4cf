import EventLoop.Allocator
import EventLoop.Config
import EventLoop.DescriptorTable
import EventLoop.EventMask

/-! # Readiness sets

    A set of a fixed number of slots. The registered entries are packed at the front, in the
    order of registration, and the slots after them hold the unused entry.

    * Registering a descriptor again replaces its interest in place and clears its result.
    * Removing an entry moves the later ones left by one and keeps their order.
    * `toList` is the ordered list of entries that the set stands for. -/

namespace EventLoop

/-- A descriptor, what is asked about it, and what the last wait reported. -/
structure PollEntry where
  fd : Descriptor
  interest : EventMask
  result : EventMask
  deriving DecidableEq, Repr, Inhabited

namespace PollEntry

/-- The content of a slot that is not in use. -/
def unused : PollEntry := ⟨-1, .empty, .empty⟩

/-- The entry as a record. -/
def inspect (e : PollEntry) : String :=
  Text.record "PollEntry" [("fd", toString e.fd), ("interest", e.interest.inspect),
    ("result", e.result.inspect)]

end PollEntry

/-- A readiness set: all its slots, how many of them are in use, and how long a wait lasts. -/
structure PollSet where
  slots : Array PollEntry
  registered : Nat
  /-- Milliseconds; `-1` waits until something is ready. -/
  timeout : Int
  deriving DecidableEq, Repr, Inhabited

namespace PollSet

/-- Bytes that one slot takes. -/
def slotBytes : Nat := 8

/-- An empty set of a number of slots, at least one. Its memory can be refused. -/
def create (capacity : Nat) (memory : Allocator) : Except Error PollSet × Allocator :=
  if capacity = 0 then (.error (.invalidConfig "poll set capacity must be at least 1"), memory)
  else match memory.request (slotBytes * capacity) with
    | (true, memory) => (.ok ⟨Array.replicate capacity .unused, 0, blockIndefinitely⟩, memory)
    | (false, memory) => (.error (.outOfMemory (min (slotBytes * capacity) maxWord)), memory)

/-- Number of slots. -/
def capacity (p : PollSet) : Nat := p.slots.size

/-- The registered entries in order. -/
def toList (p : PollSet) : List PollEntry := p.slots.toList.take p.registered

/-- No entry is registered. -/
def isEmpty (p : PollSet) : Bool := p.registered == 0

/-- Set how long a wait lasts. -/
def setTimeout (p : PollSet) (timeout : Int) : PollSet := { p with timeout := timeout }

/-- Index of a descriptor among the entries. -/
def position? (p : PollSet) (fd : Descriptor) : Option Nat := p.toList.findIdx? (·.fd == fd)

/-- The descriptor is registered. -/
def contains (p : PollSet) (fd : Descriptor) : Bool := (p.position? fd).isSome

/-- Register a descriptor, or replace its interest. Fails only for a new one in a full set. -/
def add (p : PollSet) (fd : Descriptor) (interest : EventMask) : Except Error PollSet :=
  match p.position? fd with
  | some i => .ok { p with slots := p.slots.setIfInBounds i ⟨fd, interest, .empty⟩ }
  | none =>
    if p.registered = p.capacity then .error (.capacityExceeded p.capacity)
    else .ok { p with
      slots := p.slots.setIfInBounds p.registered ⟨fd, interest, .empty⟩
      registered := p.registered + 1 }

/-- Take a descriptor out; the answer is whether it was registered. -/
def remove (p : PollSet) (fd : Descriptor) : Bool × PollSet :=
  match p.position? fd with
  | none => (false, p)
  | some i =>
    let front := p.slots.extract 0 i ++ p.slots.extract (i + 1) p.registered
    (true, { p with
      slots := front ++ #[PollEntry.unused] ++ p.slots.extract p.registered p.slots.size
      registered := p.registered - 1 })

/-- Take everything out. -/
def clear (p : PollSet) : PollSet :=
  { p with
    slots :=
      Array.replicate p.registered PollEntry.unused ++ p.slots.extract p.registered p.slots.size
    registered := 0 }

/-- The entry at an index. -/
def entry? (p : PollSet) (i : Nat) : Option PollEntry := p.toList[i]?

/-- What the last wait reported for the entry at an index; nothing past the end. -/
def result (p : PollSet) (i : Nat) : EventMask := ((p.entry? i).map PollEntry.result).getD .empty

/-- The last wait reported every flag of a mask for the entry at an index. -/
def hasFlag (p : PollSet) (i : Nat) (flag : EventMask) : Bool := (p.result i).contains flag

/-- Record what a wait reported: one result per entry, in order. -/
def record (p : PollSet) (results : Array EventMask) : PollSet :=
  { p with slots := p.slots.mapIdx fun i e =>
      if i < p.registered then { e with result := (results[i]?).getD .empty } else e }

/-- Forget all results. -/
def clearResults (p : PollSet) : PollSet := p.record #[]

/-- The set as a record. -/
def inspect (p : PollSet) : String :=
  Text.record "PollSet" [("registered", toString p.registered), ("capacity", toString p.capacity),
    ("timeout", toString p.timeout)]

end PollSet

end EventLoop
