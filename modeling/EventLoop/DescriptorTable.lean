import EventLoop.Error

/-! # Tables keyed by descriptor

    Each live descriptor has one value. A descriptor that has a value keeps it: two live
    owners of one descriptor are never valid. -/

namespace EventLoop

/-- The number of an open file; a negative number is no open file. -/
abbrev Descriptor := Int

/-- Values under descriptors, in the order of insertion. -/
structure DescriptorTable (V : Type) where
  entries : List (Descriptor × V)
  deriving Repr, DecidableEq

namespace DescriptorTable

variable {V : Type}

/-- The table without values. -/
def empty : DescriptorTable V := ⟨[]⟩

instance : Inhabited (DescriptorTable V) := ⟨empty⟩

/-- The value of a descriptor. -/
def get? (t : DescriptorTable V) (fd : Descriptor) : Option V := t.entries.lookup fd

/-- The descriptor has a value. -/
def contains (t : DescriptorTable V) (fd : Descriptor) : Bool := (t.get? fd).isSome

/-- Number of values. -/
def size (t : DescriptorTable V) : Nat := t.entries.length

/-- No descriptor has a value. -/
def isEmpty (t : DescriptorTable V) : Bool := t.entries.isEmpty

/-- The descriptors that have a value. -/
def keys (t : DescriptorTable V) : List Descriptor := t.entries.map Prod.fst

/-- Give a descriptor a value; one that has a value already is refused and keeps it. -/
def insert (t : DescriptorTable V) (fd : Descriptor) (v : V) : Except Error (DescriptorTable V) :=
  if t.contains fd then .error (.duplicateDescriptor fd) else .ok ⟨t.entries ++ [(fd, v)]⟩

/-- Change the value of a descriptor, if it has one. -/
def modify (t : DescriptorTable V) (fd : Descriptor) (f : V → V) : DescriptorTable V :=
  ⟨t.entries.map fun (key, v) => if key = fd then (key, f v) else (key, v)⟩

/-- Take the value of a descriptor away. -/
def erase (t : DescriptorTable V) (fd : Descriptor) : DescriptorTable V :=
  ⟨t.entries.filter fun (key, _) => key ≠ fd⟩

/-- The entries by ascending descriptor. -/
def sorted (t : DescriptorTable V) : List (Descriptor × V) :=
  t.entries.mergeSort fun a b => a.1 ≤ b.1

/-- The table as a record: how many values it has. -/
def inspect (t : DescriptorTable V) : String := Text.record "FdTable" [("len", toString t.size)]

end DescriptorTable

end EventLoop
