import EventLoop.Host
import Mathlib.Data.List.Nodup
import Mathlib.Data.List.Perm.Subperm

/-! # Which descriptors are open

    What each call of the system does to the list of open descriptors. A new
    descriptor is one that was not open (`lowestFree_not_mem`: among more
    candidates than there are open files one is free); closing takes one
    occurrence of a number away; everything else leaves the list as it is. -/

namespace EventLoop

namespace Kernel

variable {k k' : Kernel}

/-- A number is handed out only while it is free. -/
theorem lowestFree_not_mem (k : Kernel) : k.lowestFree ∉ k.openDescriptors := by
  rw [lowestFree]
  cases hfind : (List.range (k.files.length + 1)).find?
      fun (i : Nat) => !k.openDescriptors.contains (3 + (i : Int)) with
  | some i =>
      have hi := List.find?_some hfind
      simp only [Bool.not_eq_true', List.contains_eq_mem, decide_eq_false_iff_not] at hi
      exact hi
  | none =>
      -- every candidate would be open, which are more than there are open files
      exfalso
      have hall : (List.range (k.files.length + 1)).map (fun i : Nat => 3 + (i : Int))
          ⊆ k.openDescriptors := by
        intro fd hfd
        obtain ⟨i, hi, rfl⟩ := List.mem_map.mp hfd
        have hopen := List.find?_eq_none.mp hfind i hi
        simp only [Bool.not_eq_true', List.contains_eq_mem, decide_eq_false_iff_not,
          not_not] at hopen
        exact hopen
      have hdistinct :
          ((List.range (k.files.length + 1)).map fun i : Nat => 3 + (i : Int)).Nodup := by
        refine List.Nodup.map ?_ List.nodup_range
        intro i j hij
        have hij' : (3 : Int) + i = 3 + j := hij
        omega
      have hlen := (List.subperm_of_subset hdistinct hall).length_le
      rw [List.length_map, List.length_range, openDescriptors, List.length_map] at hlen
      omega

/-- Opening adds the number to those that are open. -/
@[simp] theorem openDescriptors_openAt (k : Kernel) (fd : Descriptor) (file : OpenFile) :
    (k.openAt fd file).openDescriptors = fd :: k.openDescriptors := rfl

@[simp] theorem openDescriptors_setFile (k : Kernel) (fd : Descriptor) (file : OpenFile) :
    (k.setFile fd file).openDescriptors = k.openDescriptors := by
  show (k.files.modify (k.files.findIdx (·.1 == fd)) fun _ => (fd, file)).map Prod.fst
    = k.files.map Prod.fst
  -- on the list of files, which are replaced in their places
  induction k.files with
  | nil => rfl
  | cons entry rest ih =>
      rw [List.findIdx_cons]
      by_cases hfd : entry.1 = fd
      · rw [show (entry.1 == fd) = true from beq_iff_eq.mpr hfd]
        show fd :: rest.map Prod.fst = entry.1 :: rest.map Prod.fst
        rw [hfd]
      · rw [show (entry.1 == fd) = false from beq_eq_false_iff_ne.mpr hfd]
        show entry.1 :: (rest.modify _ _).map Prod.fst = entry.1 :: rest.map Prod.fst
        rw [ih]

/-- Ending a queue of streams opens and closes no file. -/
theorem openDescriptors_foldl_onStream (queue : List Nat) (f : Stream → Stream) (k : Kernel) :
    (queue.foldl (fun k index => k.onStream index f) k).openDescriptors = k.openDescriptors := by
  -- on the queue, of which each stream is changed in place
  induction queue generalizing k with
  | nil => rfl
  | cons index rest ih =>
      rw [List.foldl_cons, ih]
      rfl

/-- Closing takes one occurrence of the number away. -/
@[simp] theorem openDescriptors_close (k : Kernel) (fd : Descriptor) :
    (k.close fd).openDescriptors = k.openDescriptors.erase fd := by
  have hrest : (k.files.eraseP fun p => p.1 == fd).map Prod.fst = k.openDescriptors.erase fd := by
    rw [openDescriptors]
    -- on the list of files, of which the first match goes
    induction k.files with
    | nil => rfl
    | cons entry rest ih =>
        obtain ⟨key, file⟩ := entry
        by_cases hfd : key = fd
        · subst hfd
          simp
        · simp [hfd, ih]
  rw [close]
  split
  · exact hrest
  · rw [openDescriptors_foldl_onStream]
    exact hrest
  · exact hrest

@[simp] theorem openDescriptors_setNonblocking (k : Kernel) (fd : Descriptor) :
    (k.setNonblocking fd).2.openDescriptors = k.openDescriptors := by
  rw [setNonblocking]
  split
  · split
    · rfl
    · exact openDescriptors_setFile _ _ _
  · rfl

@[simp] theorem openDescriptors_send (k : Kernel) (fd : Descriptor) (data : Bytes) :
    (k.send fd data).2.openDescriptors = k.openDescriptors := by
  rw [send]
  split
  · split <;> rfl
  · rfl

@[simp] theorem openDescriptors_recv (k : Kernel) (fd : Descriptor) (room : Nat) :
    (k.recv fd room).2.openDescriptors = k.openDescriptors := by
  rw [recv]
  split
  · split <;> rfl
  · rfl

/-- An accepted stream gets the number it is accepted under; a failed accept changes
    nothing. -/
theorem acceptAt_cases (k : Kernel) (listener fd : Descriptor) :
    (∃ peer k', k.acceptAt listener fd = (.ok (fd, peer), k')
        ∧ k'.openDescriptors = fd :: k.openDescriptors)
      ∨ ∃ e, k.acceptAt listener fd = (.error e, k) := by
  rw [acceptAt]
  by_cases hadmit : k.admits fd = true
  · rw [if_pos hadmit, take]
    split
    · refine .inl ⟨_, _, rfl, ?_⟩
      rw [openDescriptors_openAt, openDescriptors_setFile]
    · exact .inr ⟨_, rfl⟩
    · exact .inr ⟨_, rfl⟩
    · exact .inr ⟨_, rfl⟩
  · rw [if_neg hadmit]
    exact .inr ⟨_, rfl⟩

/-- A client that connects opens nothing on this side. -/
theorem openDescriptors_connect (k : Kernel) (address : Address) :
    (k.connect address).2.openDescriptors = k.openDescriptors := by
  rw [connect]
  cases k.network with
  | isolated => rfl
  | loopback =>
      dsimp only
      cases k.listenerAt? address with
      | none => rfl
      | some fd =>
          dsimp only
          split
          · rw [openDescriptors_setFile]
            rfl
          · rfl

end Kernel

namespace Host

/-- The numbers of the open files. -/
def openDescriptors (h : Host) : List Descriptor := h.kernel.openDescriptors

@[simp] theorem openDescriptors_close (h : Host) (fd : Descriptor) :
    (h.close fd).openDescriptors = h.openDescriptors.erase fd := Kernel.openDescriptors_close _ _

/-- A call to the system changes of the host what the call changes of the kernel. -/
theorem kernel_call {α : Type} (h : Host) (name : String) (run : Kernel → Except Errno α × Kernel) :
    (h.call name run).2.kernel = (run h.kernel).2 := by
  rw [call]
  rcases run h.kernel with ⟨r, k⟩
  cases r <;> rfl

/-- The open files after a call are those that the kernel has after it. -/
theorem openDescriptors_call {α : Type} (h : Host) (name : String)
    (run : Kernel → Except Errno α × Kernel) :
    (h.call name run).2.openDescriptors = (run h.kernel).2.openDescriptors :=
  congrArg Kernel.openDescriptors (h.kernel_call name run)

/-- Where the file is not open, neither of the two calls changes anything. -/
theorem kernel_setNonblocking (h : Host) (fd : Descriptor) :
    (h.setNonblocking fd).2.kernel = (h.kernel.setNonblocking fd).2 := by
  rw [setNonblocking, call, Kernel.flags, Kernel.setNonblocking]
  cases hfile : h.kernel.file? fd with
  | none => rfl
  | some file =>
      dsimp only
      rw [kernel_call, Kernel.setNonblocking, hfile]

@[simp] theorem openDescriptors_setNonblocking (h : Host) (fd : Descriptor) :
    (h.setNonblocking fd).2.openDescriptors = h.openDescriptors := by
  rw [openDescriptors, kernel_setNonblocking]
  exact Kernel.openDescriptors_setNonblocking _ _

end Host

end EventLoop
