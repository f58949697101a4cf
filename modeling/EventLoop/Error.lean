import EventLoop.Errno
import EventLoop.Text.Quoted
import EventLoop.Text.Record

/-! # Causes of failure

    Everything that buffers, the readiness set and the server can fail with. That a transfer
    would have to wait is no failure: it is a transfer of no bytes. -/

namespace EventLoop

/-- Why an operation failed. -/
inductive Error where
  /-- Memory for a buffer, its growth, a joined write or a readiness set was refused. -/
  | outOfMemory (requested : Nat)
  /-- Every slot of the readiness set is taken. -/
  | capacityExceeded (capacity : Nat)
  /-- The capacity asked of a buffer is not a power of two. -/
  | invalidCapacity (size : Nat)
  /-- The bind address is neither `A.B.C.D:PORT` nor a bare port. -/
  | invalidAddress (input : String)
  /-- The configuration breaks a rule. -/
  | invalidConfig (rule : String)
  /-- The descriptor has a connection already. -/
  | duplicateDescriptor (fd : Int)
  /-- The descriptor has no connection. -/
  | unknownDescriptor (fd : Int)
  /-- The server was cleaned up. -/
  | notBound
  /-- A system call failed. -/
  | os (call : String) (errno : Errno)
  deriving DecidableEq, Repr

namespace Error

/-- The failure as a message to people. -/
def message : Error → String
  | outOfMemory requested => s!"out of memory allocating {requested} bytes"
  | capacityExceeded capacity => s!"readiness set full ({capacity} descriptors)"
  | invalidCapacity size => s!"buffer capacity {size} is not a power of two"
  | invalidAddress input => "invalid bind address " ++ Text.quoted input
  | invalidConfig rule => "invalid config: " ++ rule
  | duplicateDescriptor fd => s!"descriptor {fd} already has a connection"
  | unknownDescriptor fd => s!"descriptor {fd} has no connection"
  | notBound => "server is not bound"
  | os call errno => call ++ ": " ++ errno.text

/-- The name of the kind of failure. -/
def kind : Error → String
  | outOfMemory _ => "OutOfMemory"
  | capacityExceeded _ => "CapacityExceeded"
  | invalidCapacity _ => "InvalidCapacity"
  | invalidAddress _ => "InvalidAddress"
  | invalidConfig _ => "InvalidConfig"
  | duplicateDescriptor _ => "DuplicateDescriptor"
  | unknownDescriptor _ => "UnknownDescriptor"
  | notBound => "NotBound"
  | os _ _ => "Os"

/-- The failure as a record: its kind and what it carries. -/
def inspect (e : Error) : String :=
  match e with
  | outOfMemory requested => Text.record e.kind [("requested", toString requested)]
  | capacityExceeded capacity => Text.record e.kind [("capacity", toString capacity)]
  | invalidCapacity size => Text.tagged e.kind (toString size)
  | invalidAddress input => Text.tagged e.kind (Text.quoted input)
  | invalidConfig rule => Text.tagged e.kind (Text.quoted rule)
  | duplicateDescriptor fd => Text.tagged e.kind (toString fd)
  | unknownDescriptor fd => Text.tagged e.kind (toString fd)
  | notBound => e.kind
  | os call errno => Text.record e.kind [("op", Text.quoted call), ("errno", errno.name)]

/-- The number of a failed system call. -/
def errno? : Error → Option Errno
  | os _ errno => some errno
  | _ => none

/-- Memory, descriptors or slots ran out. -/
def isResourceExhaustion : Error → Bool
  | outOfMemory _ | capacityExceeded _ => true
  | os _ errno =>
    [Errno.processTableFull, Errno.systemTableFull, Errno.noBufferSpace,
      Errno.noMemory].contains errno
  | _ => false

/-- Nothing was pending on a descriptor that does not wait. -/
def isWouldBlock (e : Error) : Bool := e.errno? == some Errno.again

/-- A loop that accepts clients should ride this out instead of giving up. -/
def isTransient (e : Error) : Bool :=
  e.isResourceExhaustion ||
    [some Errno.again, some Errno.interrupted, some Errno.connectionAborted].contains e.errno?

end Error

end EventLoop
