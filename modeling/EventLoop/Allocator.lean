import EventLoop.Bytes

/-! # Memory

    Buffers, joined writes and readiness sets ask for their memory and can be refused. A
    request is refused when it exceeds the limit, except that a given number of such
    requests is let through, up to a ceiling. No object is larger than half of the words,
    whatever the limits are. -/

namespace EventLoop

/-- What the next requests for memory will be granted. -/
structure Allocator where
  /-- The largest request that is granted as a matter of course, in bytes. -/
  limit : Nat
  /-- How many larger requests are still let through. -/
  spared : Nat
  /-- No request above this is let through. -/
  ceiling : Nat
  deriving DecidableEq, Repr

/-- The largest size of an object in memory: half of the words. -/
def maxObject : Nat := maxWord / 2

namespace Allocator

/-- Memory without limits of its own. -/
def plentiful : Allocator := ⟨maxObject, 0, maxObject⟩

instance : Inhabited Allocator := ⟨plentiful⟩

/-- Ask for a number of bytes. -/
def request (a : Allocator) (bytes : Nat) : Bool × Allocator :=
  if bytes > min a.ceiling maxObject then (false, a)
  else if bytes ≤ a.limit then (true, a)
  else if a.spared > 0 then (true, { a with spared := a.spared - 1 })
  else (false, a)

end Allocator

end EventLoop
