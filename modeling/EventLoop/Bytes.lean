/-! # Bytes

    A transfer, a buffer's contents and a variable's raw value are all lists of bytes. -/

namespace EventLoop

/-- A string of bytes, in order. -/
abbrev Bytes := List UInt8

/-- The largest number that a machine word holds: sizes are 64-bit words. -/
def maxWord : Nat := UInt64.size - 1

end EventLoop
