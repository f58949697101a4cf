import EventLoop.Kernel.Basic
import EventLoop.Log.Logger

/-! # The host

    Everything around a server that its calls reach: the operating system, memory and the
    log. -/

namespace EventLoop

/-- The surroundings of a server. -/
structure Host where
  kernel : Kernel
  memory : Allocator
  logger : Log.Logger
  deriving DecidableEq, Repr, Inhabited

/-- Limits that hold on a host for a while; what is not given stays as it is. -/
structure Limits where
  /-- No descriptor with this number or a larger one is made, and no more entries are waited on. -/
  descriptors : Option Nat
  /-- A signal arrives in every wait that lasts. -/
  interrupted : Bool
  memory : Option Allocator
  deriving DecidableEq, Repr

/-- No limit is put on the host. -/
def Limits.none : Limits := ⟨Option.none, false, Option.none⟩

namespace Host

/-- A host on which nothing is open, with plenty of memory. -/
def fresh (network : Network) (logger : Log.Logger) : Host := ⟨.fresh network, .plentiful, logger⟩

/-- Write a message to the log. -/
def log (h : Host) (level : Log.Level) (message : String) : Host :=
  { h with logger := h.logger.log level message }

/-- Write notes to the log. -/
def logAll (h : Host) (notes : List Log.Note) : Host := { h with logger := h.logger.logAll notes }

/-- Close a descriptor. -/
def close (h : Host) (fd : Descriptor) : Host := { h with kernel := h.kernel.close fd }

/-- Make a call of the system; a failing one is named by the call. -/
def call {α : Type} (h : Host) (name : String) (run : Kernel → Except Errno α × Kernel) :
    Except Error α × Host :=
  match run h.kernel with
  | (.ok a, k) => (.ok a, { h with kernel := k })
  | (.error e, k) => (.error (.os name e), { h with kernel := k })

/-- Make calls on a file not wait: its flags are looked up and set again with one more. -/
def setNonblocking (h : Host) (fd : Descriptor) : Except Error Unit × Host :=
  match h.call "fcntl(F_GETFL)" (·.flags fd) with
  | (.error e, h) => (.error e, h)
  | (.ok _, h) => h.call "fcntl(F_SETFL)" (·.setNonblocking fd)

/-- The host under limits. -/
def limited (h : Host) (l : Limits) : Host :=
  { h with
    memory := l.memory.getD h.memory
    kernel := { h.kernel with
      descriptorLimit := l.descriptors.or h.kernel.descriptorLimit
      interrupted := l.interrupted || h.kernel.interrupted } }

/-- The host under the limits that another one is under. -/
def limitedAs (h other : Host) : Host :=
  { h with
    memory := other.memory
    kernel := { h.kernel with
      descriptorLimit := other.kernel.descriptorLimit
      interrupted := other.kernel.interrupted } }

end Host

end EventLoop
