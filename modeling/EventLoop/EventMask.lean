/-! # Readiness flags

    A mask of 16 bits, read as a signed number where it is shown. It serves as the interest
    registered for a descriptor and as the result that a wait reports for it. -/

namespace EventLoop

/-- A set of readiness flags. -/
structure EventMask where
  mask : BitVec 16
  deriving DecidableEq, Repr, Inhabited

namespace EventMask

/-- No flag. -/
def empty : EventMask := ⟨0⟩

/-- There is something to read, or a client to accept. -/
def readable : EventMask := ⟨1⟩

/-- There is something urgent to read. -/
def priority : EventMask := ⟨2⟩

/-- There is room to write. -/
def writable : EventMask := ⟨4⟩

/-- The descriptor has failed; only reported. -/
def error : EventMask := ⟨8⟩

/-- The peer is gone; only reported. -/
def hangup : EventMask := ⟨16⟩

/-- The descriptor is not open; only reported. -/
def invalid : EventMask := ⟨32⟩

/-- The interest of a listener. -/
def listener : EventMask := ⟨3⟩

/-- The interest of an accepted connection. -/
def connection : EventMask := ⟨21⟩

/-- The mask with the low 16 bits of a number. -/
def ofInt (n : Int) : EventMask := ⟨BitVec.ofInt 16 n⟩

/-- The mask as a signed number. -/
def bits (m : EventMask) : Int := m.mask.toInt

/-- No flag is set. -/
def isEmpty (m : EventMask) : Bool := m.mask == 0

/-- Every flag of `other` is set. -/
def contains (m other : EventMask) : Bool := (m.mask &&& other.mask) == other.mask

/-- Some flag of `other` is set. -/
def intersects (m other : EventMask) : Bool := (m.mask &&& other.mask) != 0

/-- The flags that are not in `other`. -/
def without (m other : EventMask) : EventMask := ⟨m.mask &&& ~~~other.mask⟩

/-- The flags of either mask. -/
def union (m other : EventMask) : EventMask := ⟨m.mask ||| other.mask⟩

/-- The flags of both masks. -/
def inter (m other : EventMask) : EventMask := ⟨m.mask &&& other.mask⟩

instance : OrOp EventMask := ⟨union⟩

instance : AndOp EventMask := ⟨inter⟩

/-- There is something to read. -/
def isReadable (m : EventMask) : Bool := m.intersects (readable ||| priority)

/-- There is room to write. -/
def isWritable (m : EventMask) : Bool := m.contains writable

/-- The descriptor hung up, failed or is not open. -/
def isClosed (m : EventMask) : Bool := m.intersects (hangup ||| error ||| invalid)

/-- The flags with their names. -/
def names : List (EventMask × String) := [(readable, "READABLE"), (priority, "PRIORITY"),
  (writable, "WRITABLE"), (error, "ERROR"), (hangup, "HANGUP"), (invalid, "INVALID")]

/-- The names of the flags that are set. -/
def inspect (m : EventMask) : String :=
  let body :=
    if m.isEmpty then "empty"
    else " | ".intercalate ((names.filter fun (flag, _) => m.contains flag).map Prod.snd)
  "EventMask(" ++ body ++ ")"

/-- The flags a wait may report for an interest: those asked for, and the ones reported always. -/
def reported (interest condition : EventMask) : EventMask :=
  condition &&& (interest ||| error ||| hangup ||| invalid)

end EventMask

end EventLoop
