import EventLoop.Bytes

/-! # The identity hash of descriptors

    The system hands out the lowest free descriptor, so descriptors are small and dense and
    serve as their own hash. Keys that are no integers are mixed in byte by byte. -/

namespace EventLoop

/-- The state of a hash: the value so far. -/
structure Hasher where
  value : UInt64
  deriving DecidableEq, Repr

namespace Hasher

/-- Nothing hashed yet. -/
def initial : Hasher := ⟨0⟩

/-- Hash an integer of 32 bits: its bits become the value. -/
def writeInt32 (_ : Hasher) (n : Int32) : Hasher := ⟨n.toUInt32.toUInt64⟩

/-- Mix one byte in: turn the value left by eight bits and combine the byte by exclusive or. -/
def writeByte (h : Hasher) (b : UInt8) : Hasher :=
  ⟨((h.value <<< 8) ||| (h.value >>> 56)) ^^^ b.toUInt64⟩

/-- Mix bytes in, in order. -/
def write (h : Hasher) (bytes : Bytes) : Hasher := bytes.foldl writeByte h

/-- The hash of one integer. -/
def hashOne (n : Int32) : UInt64 := (initial.writeInt32 n).value

end Hasher

end EventLoop
