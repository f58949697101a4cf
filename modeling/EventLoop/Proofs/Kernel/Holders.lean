import EventLoop.Proofs.Kernel.Descriptors

/-! # Who refers to which stream

    A stream is referred to by the file that holds it, or by the listener in whose
    queue it waits; and by one file at most, as long as only the calls below are made
    (`Tidy`). So what a program does through one descriptor leaves the streams behind
    all others alone.

    Files are looked at by number: `file?_openAt_self`, …, `file?_close_of_ne` say what
    each change of the files does to each number, and all that follows is about
    `references` and `stream?` only. -/

namespace EventLoop

namespace Kernel

variable {k k' : Kernel} {fd other : Descriptor} {index : Nat}

/-- The streams that the file under a number refers to. -/
def references (k : Kernel) (fd : Descriptor) : List Nat :=
  match (k.file? fd).map OpenFile.handle with
  | some (.stream index) => [index]
  | some (.listener _ queue) => queue
  | _ => []

/-- The stream that the file under a number is an end of. -/
def index? (k : Kernel) (fd : Descriptor) : Option Nat :=
  match (k.file? fd).map OpenFile.handle with
  | some (.stream index) => some index
  | _ => none

def stream? (k : Kernel) (fd : Descriptor) : Option Stream := (k.index? fd).bind (k.streams[·]?)

/-! ## Files by number -/

theorem file?_openAt_self (k : Kernel) (fd : Descriptor) (file : OpenFile) :
    (k.openAt fd file).file? fd = some file := List.lookup_cons_self

theorem file?_openAt_of_ne (k : Kernel) (file : OpenFile) (hne : other ≠ fd) :
    (k.openAt fd file).file? other = k.file? other := by
  show ((fd, file) :: k.files).lookup other = k.files.lookup other
  rw [List.lookup_cons, beq_eq_false_iff_ne.mpr hne]

theorem file?_setFile_of_ne (k : Kernel) (file : OpenFile) (hne : other ≠ fd) :
    (k.setFile fd file).file? other = k.file? other := by
  show (k.files.modify (k.files.findIdx (·.1 == fd)) fun _ => (fd, file)).lookup other
    = k.files.lookup other
  -- on the list of files: what is replaced has another number
  induction k.files with
  | nil => rfl
  | cons entry rest ih =>
      obtain ⟨key, old⟩ := entry
      rw [List.findIdx_cons]
      by_cases hkey : key = fd
      · rw [show (key == fd) = true from beq_iff_eq.mpr hkey]
        show ((fd, file) :: rest).lookup other = ((key, old) :: rest).lookup other
        rw [List.lookup_cons, List.lookup_cons, hkey, beq_eq_false_iff_ne.mpr hne]
      · rw [show (key == fd) = false from beq_eq_false_iff_ne.mpr hkey]
        show ((key, old) :: rest.modify _ _).lookup other = ((key, old) :: rest).lookup other
        rw [List.lookup_cons, List.lookup_cons, ih]

/-- What replaces an open file is found in its place. -/
theorem file?_setFile_self {old : OpenFile} (file : OpenFile) (hopen : k.file? fd = some old) :
    (k.setFile fd file).file? fd = some file := by
  have hlookup : k.files.lookup fd = some old := hopen
  show (k.files.modify (k.files.findIdx (·.1 == fd)) fun _ => (fd, file)).lookup fd = some file
  revert hlookup
  -- on the list of files up to the one that is replaced
  induction k.files with
  | nil => exact nofun
  | cons entry rest ih =>
      obtain ⟨key, held⟩ := entry
      intro hlookup
      rw [List.findIdx_cons]
      by_cases hkey : key = fd
      · rw [show (key == fd) = true from beq_iff_eq.mpr hkey]
        exact List.lookup_cons_self
      · have hmiss : (fd == key) = false := beq_eq_false_iff_ne.mpr (Ne.symm hkey)
        rw [List.lookup_cons, hmiss] at hlookup
        rw [show (key == fd) = false from beq_eq_false_iff_ne.mpr hkey]
        show ((key, held) :: rest.modify _ _).lookup fd = some file
        rw [List.lookup_cons, hmiss]
        exact ih hlookup

/-- No file is found exactly under the numbers that are not open. -/
theorem file?_eq_none_iff : k.file? fd = none ↔ fd ∉ k.openDescriptors := by
  rw [file?, List.lookup_eq_none_iff, openDescriptors, List.mem_map]
  constructor
  · rintro h ⟨entry, hentry, rfl⟩
    exact absurd (h entry hentry) (by simp)
  · intro h entry hentry
    exact bne_iff_ne.mpr fun heq => h ⟨entry, hentry, heq.symm⟩

theorem files_foldl_onStream (queue : List Nat) (f : Stream → Stream) (k : Kernel) :
    (queue.foldl (fun k index => k.onStream index f) k).files = k.files := by
  induction queue generalizing k with
  | nil => rfl
  | cons index rest ih =>
      rw [List.foldl_cons, ih]
      rfl

theorem files_close (k : Kernel) (fd : Descriptor) :
    (k.close fd).files = k.files.eraseP fun entry => entry.1 == fd := by
  rw [close]
  split
  · rfl
  · rw [files_foldl_onStream]
  · rfl

/-- Where numbers are distinct, nothing is left under the one that was closed. -/
theorem file?_close_self (hdistinct : k.openDescriptors.Nodup) : (k.close fd).file? fd = none := by
  rw [file?_eq_none_iff, openDescriptors_close]
  exact fun hmem => (List.Nodup.mem_erase_iff hdistinct).mp hmem |>.1 rfl

theorem file?_close_of_ne (k : Kernel) (hne : other ≠ fd) :
    (k.close fd).file? other = k.file? other := by
  rw [file?, files_close, file?]
  -- on the list of files, where the other entry is met before or after
  induction k.files with
  | nil => rfl
  | cons entry rest ih =>
      obtain ⟨key, file⟩ := entry
      by_cases hkey : key = fd
      · rw [List.eraseP_cons_of_pos (by simpa using hkey), List.lookup_cons, hkey,
          beq_eq_false_iff_ne.mpr hne]
      · rw [List.eraseP_cons_of_neg (by simpa using hkey), List.lookup_cons, List.lookup_cons, ih]

/-! ## References -/

/-- What a number refers to is decided by what its file stands for. -/
theorem references_congr
    (h : (k'.file? fd).map OpenFile.handle = (k.file? fd).map OpenFile.handle) :
    k'.references fd = k.references fd := by
  rw [references, h, references]

theorem index?_congr (h : (k'.file? fd).map OpenFile.handle = (k.file? fd).map OpenFile.handle) :
    k'.index? fd = k.index? fd := by
  rw [index?, h, index?]

/-- A listener refers to the streams in its queue. -/
theorem references_of_listener {address : Address} {queue : List Nat} {nonblocking : Bool}
    (h : k.file? fd = some ⟨.listener address queue, nonblocking⟩) : k.references fd = queue := by
  rw [references, h]
  rfl

/-- A listener is the end of no stream. -/
theorem index?_of_listener {address : Address} {queue : List Nat} {nonblocking : Bool}
    (h : k.file? fd = some ⟨.listener address queue, nonblocking⟩) : k.index? fd = none := by
  rw [index?, h]
  rfl

theorem references_of_none (h : k.file? fd = none) : k.references fd = [] := by
  rw [references, h]
  rfl

theorem index?_of_none (h : k.file? fd = none) : k.index? fd = none := by
  rw [index?, h]
  rfl

/-- A file is an end of a stream exactly when that is what it stands for. -/
theorem index?_eq_some_iff :
    k.index? fd = some index ↔ (k.file? fd).map OpenFile.handle = some (.stream index) := by
  rw [index?]
  constructor
  · intro h
    split at h
    · rename_i hhandle
      rw [hhandle, Option.some.inj h]
    · cases h
  · intro h
    rw [h]

/-- An end of a stream refers to that stream alone. -/
theorem references_of_index (h : k.index? fd = some index) : k.references fd = [index] := by
  rw [references, index?_eq_some_iff.mp h]

theorem mem_references_of_index (h : k.index? fd = some index) : index ∈ k.references fd := by
  rw [references_of_index h]
  exact List.mem_singleton_self index

/-- The stream found under a number is the one its file is an end of. -/
theorem stream?_eq_some_iff {s : Stream} :
    k.stream? fd = some s ↔ ∃ index, k.index? fd = some index ∧ k.streams[index]? = some s :=
  Option.bind_eq_some_iff

/-- The condition of a file with a stream is the stream's. -/
theorem condition_of_stream {s : Stream} (hstream : k.stream? fd = some s) :
    k.condition fd = s.condition := by
  obtain ⟨index, hindex, hs⟩ := stream?_eq_some_iff.mp hstream
  rw [condition, index?_eq_some_iff.mp hindex]
  dsimp only
  rw [hs]
  rfl

/-- What a wait tells of the end of a stream is part of its condition. -/
theorem closed_of_readiness {s : Stream} {interest : EventMask} (hstream : k.stream? fd = some s)
    (hclosed : (k.readiness fd interest).isClosed = true) : s.condition.isClosed = true := by
  rw [readiness, condition_of_stream hstream] at hclosed
  generalize s.condition = m at hclosed ⊢
  have hmask : ∀ x y z : BitVec 16, (x &&& y &&& z != 0) = true → (x &&& z != 0) = true := by
    intro x y z h
    rw [bne_iff_ne] at h ⊢
    intro hzero
    refine h ?_
    rw [BitVec.and_assoc, BitVec.and_comm y z, ← BitVec.and_assoc, hzero]
    exact BitVec.zero_and
  exact hmask _ _ _ hclosed

/-- Every stream is there and has one referrer at most. -/
structure Tidy (k : Kernel) : Prop where
  distinct : k.openDescriptors.Nodup
  nodup : ∀ fd, (k.references fd).Nodup
  single : ∀ fd other index, index ∈ k.references fd → index ∈ k.references other → fd = other
  stands : ∀ fd, ∀ index ∈ k.references fd, index < k.streams.length

namespace Tidy

variable (h : k.Tidy)

include h

/-- In a tidy kernel the stream of one file is referred to by no other. -/
theorem index_ne {i : Nat} (hindex : k.index? fd = some index) (hmem : i ∈ k.references other)
    (hne : other ≠ fd) : i ≠ index := by
  rintro rfl
  exact hne (h.single other fd i hmem (mem_references_of_index hindex))

/-- The same files and as many streams. -/
theorem of_files (hfiles : k'.files = k.files) (hstreams : k'.streams.length = k.streams.length) :
    k'.Tidy := by
  have hreferences : ∀ fd, k'.references fd = k.references fd := by
    intro fd
    refine references_congr ?_
    rw [file?, hfiles, file?]
  refine ⟨?_, ?_, ?_, ?_⟩
  · rw [openDescriptors, hfiles]
    exact h.distinct
  · intro fd
    rw [hreferences]
    exact h.nodup fd
  · intro fd other index
    rw [hreferences, hreferences]
    exact h.single fd other index
  · intro fd index
    rw [hreferences, hstreams]
    exact h.stands fd index

/-- Fewer references to as many streams. -/
theorem of_subset (hdistinct : k'.openDescriptors.Nodup) (hnodup : ∀ fd, (k'.references fd).Nodup)
    (hsubset : ∀ fd, k'.references fd ⊆ k.references fd)
    (hstreams : k'.streams.length = k.streams.length) : k'.Tidy where
  distinct := hdistinct
  nodup := hnodup
  single := fun fd other index hfd hother => h.single fd other index (hsubset fd hfd)
    (hsubset other hother)
  stands := fun fd index hmem => hstreams ▸ h.stands fd index (hsubset fd hmem)

end Tidy

/-! ## One stream changes -/

def setStream (k : Kernel) (index : Nat) (s : Stream) : Kernel :=
  { k with streams := k.streams.set index s }

@[simp] theorem setStream_setStream (k : Kernel) (index : Nat) (s s' : Stream) :
    (k.setStream index s).setStream index s' = k.setStream index s' := by
  show ({ k with streams := (k.streams.set index s).set index s' } : Kernel) = _
  rw [List.set_set]
  rfl

theorem setStream_eq_self {s : Stream} (hstream : k.streams[index]? = some s) :
    k.setStream index s = k := by
  obtain ⟨hlt, hget⟩ := List.getElem?_eq_some_iff.mp hstream
  rw [setStream, ← hget, List.set_getElem_self]

/-- Changing a stream that is there is writing what it becomes. -/
theorem onStream_eq_setStream {s : Stream} (f : Stream → Stream)
    (hstream : k.streams[index]? = some s) :
    k.onStream index f = k.setStream index (f s) := by
  rw [onStream, List.modify_eq_set_getElem?, hstream]
  rfl

theorem onStream_of_none (f : Stream → Stream) (hnone : k.streams[index]? = none) :
    k.onStream index f = k := by
  rw [onStream, List.modify_eq_self (List.getElem?_eq_none_iff.mp hnone)]

theorem streams_setStream_self {s : Stream} (hlt : index < k.streams.length) :
    (k.setStream index s).streams[index]? = some s := List.getElem?_set_self hlt

theorem streams_setStream_of_ne {i : Nat} (s : Stream) (hne : i ≠ index) :
    (k.setStream index s).streams[i]? = k.streams[i]? := List.getElem?_set_ne (Ne.symm hne)

/-- What is written to a file's stream is found under its number. -/
theorem stream?_setStream_self {s s' : Stream} (hindex : k.index? fd = some index)
    (hstream : k.streams[index]? = some s) : (k.setStream index s').stream? fd = some s' := by
  refine stream?_eq_some_iff.mpr ⟨index, hindex, streams_setStream_self ?_⟩
  exact (List.getElem?_eq_some_iff.mp hstream).1

/-- Writing to a stream moves no reference. -/
theorem Tidy.setStream (h : k.Tidy) (index : Nat) (s : Stream) : (k.setStream index s).Tidy :=
  h.of_files rfl List.length_set

/-- A stream that only others refer to. -/
theorem Tidy.stream?_setStream (h : k.Tidy) (s : Stream) (hindex : k.index? fd = some index)
    (hne : other ≠ fd) : (k.setStream index s).stream? other = k.stream? other := by
  rw [stream?, stream?]
  show (k.index? other).bind _ = _
  cases hother : k.index? other with
  | none => rfl
  | some i =>
      exact streams_setStream_of_ne s (h.index_ne hindex (mem_references_of_index hother) hne)

/-! ## Accepting -/

/-- The first stream in a queue gets a file of its own, under a number that was free. -/
inductive Accepts (k : Kernel) (listener fd : Descriptor) (first : Nat) : Kernel → Prop
  | mk {address : Address} {rest : List Nat} {nonblocking : Bool}
      (hlistener : k.file? listener = some ⟨.listener address (first :: rest), nonblocking⟩)
      (hfresh : fd ∉ k.openDescriptors) :
      Accepts k listener fd first
        ((k.setFile listener ⟨.listener address rest, nonblocking⟩).openAt fd
          ⟨.stream first, false⟩)

/-- Accepting either gives the first in the queue a file of its own or leaves the kernel as
    it was. -/
theorem accept_accepts (k : Kernel) (listener : Descriptor) :
    (∃ first peer k', k.accept listener = (.ok (k.lowestFree, peer), k')
        ∧ k.Accepts listener k.lowestFree first k')
      ∨ ∃ e, k.accept listener = (.error e, k) := by
  rw [accept, acceptAt]
  by_cases hadmit : k.admits k.lowestFree = true
  · rw [if_pos hadmit, take]
    split
    · rename_i hlistener
      exact .inl ⟨_, _, _, rfl, .mk hlistener k.lowestFree_not_mem⟩
    · exact .inr ⟨_, rfl⟩
    · exact .inr ⟨_, rfl⟩
    · exact .inr ⟨_, rfl⟩
  · rw [if_neg hadmit]
    exact .inr ⟨_, rfl⟩

/-- Whoever waits first is accepted, where a number can be handed out. -/
theorem accept_of_waiting {listener : Descriptor} (hwaiting : 0 < (k.queue listener).length)
    (hfree : k.admits k.lowestFree = true) :
    ∃ first peer k', k.accept listener = (.ok (k.lowestFree, peer), k')
      ∧ k.Accepts listener k.lowestFree first k' := by
  rw [accept, acceptAt, if_pos hfree, take]
  rcases hfile : k.file? listener with _ | ⟨handle, nonblocking⟩
  · rw [queue, hfile] at hwaiting
    exact absurd hwaiting (Nat.lt_irrefl 0)
  · rw [queue, hfile] at hwaiting
    cases handle with
    | listener address queue =>
        cases queue with
        | nil => exact absurd hwaiting (Nat.lt_irrefl 0)
        | cons first rest => exact ⟨first, _, _, rfl, .mk hfile k.lowestFree_not_mem⟩
    | _ => exact absurd hwaiting (Nat.lt_irrefl 0)

namespace Accepts

variable {listener : Descriptor} {first : Nat} (h : k.Accepts listener fd first k')

include h

/-- No stream is touched by being accepted. -/
theorem streams : k'.streams = k.streams := by
  cases h
  rfl

/-- The number given out was free. -/
theorem fresh : fd ∉ k.openDescriptors := by
  cases h with
  | mk _ hfresh => exact hfresh

/-- One more number is open, and it comes first. -/
theorem openDescriptors : k'.openDescriptors = fd :: k.openDescriptors := by
  cases h
  rw [openDescriptors_openAt, openDescriptors_setFile]

/-- The new file is an end of the stream, and its calls wait. -/
theorem file?_fd : k'.file? fd = some ⟨.stream first, false⟩ := by
  cases h
  exact file?_openAt_self _ _ _

theorem index?_fd : k'.index? fd = some first := by
  rw [index?_eq_some_iff, h.file?_fd]
  rfl

/-- A listener is open, so its number is not the one given out. -/
theorem listener_ne : listener ≠ fd := by
  cases h with
  | mk hlistener hfresh =>
      rintro rfl
      rw [file?_eq_none_iff.mpr hfresh] at hlistener
      cases hlistener

theorem file?_of_ne (hfd : other ≠ fd) (hlistener : other ≠ listener) :
    k'.file? other = k.file? other := by
  cases h
  rw [file?_openAt_of_ne _ _ hfd, file?_setFile_of_ne _ _ hlistener]

/-- The stream moves from the queue to the new file. -/
theorem references_listener : k.references listener = first :: k'.references listener := by
  have hne := h.listener_ne
  cases h with
  | mk hlistener hfresh =>
      rw [references_of_listener hlistener,
        references_congr (congrArg _ (file?_openAt_of_ne _ _ hne)),
        references_of_listener (file?_setFile_self _ hlistener)]

theorem references_fd : k'.references fd = [first] := references_of_index h.index?_fd

theorem index?_listener : k.index? listener = none := by
  cases h with
  | mk hlistener _ => exact index?_of_listener hlistener

theorem index?_of_ne (hfd : other ≠ fd) : k'.index? other = k.index? other := by
  by_cases hlistener : other = listener
  · subst hlistener
    have hnew : k'.index? other = none := by
      cases h with
      | mk hlistener hfresh =>
          rw [index?_congr (congrArg _ (file?_openAt_of_ne _ _ hfd)),
            index?_of_listener (file?_setFile_self _ hlistener)]
    cases h with
    | mk hlistener hfresh => rw [hnew, index?_of_listener hlistener]
  · exact index?_congr (congrArg _ (h.file?_of_ne hfd hlistener))

/-- All other files keep their streams. -/
theorem stream?_of_ne (hfd : other ≠ fd) : k'.stream? other = k.stream? other := by
  rw [stream?, h.index?_of_ne hfd, h.streams, stream?]

/-- Besides the new file nobody refers to more than before. -/
theorem references_subset (hfd : other ≠ fd) : k'.references other ⊆ k.references other := by
  by_cases hlistener : other = listener
  · subst hlistener
    rw [h.references_listener]
    exact fun _ hi => List.mem_cons_of_mem _ hi
  · rw [references_congr (congrArg _ (h.file?_of_ne hfd hlistener))]
    exact fun _ hi => hi

/-- The stream changes hands: it had one referrer and has one again. -/
theorem tidy (hk : k.Tidy) : k'.Tidy := by
  have hfirst : first ∈ k.references listener := by
    rw [h.references_listener]
    exact List.mem_cons_self
  -- the stream that was accepted is no longer referred to by the listener, nor by others
  have hothers : ∀ other, other ≠ fd → first ∉ k'.references other := by
    intro other hne hmem
    have hsame := hk.single other listener first (h.references_subset hne hmem) hfirst
    subst hsame
    have hnodup := hk.nodup other
    rw [h.references_listener] at hnodup
    exact (List.nodup_cons.mp hnodup).1 hmem
  refine ⟨?_, ?_, ?_, ?_⟩
  · rw [h.openDescriptors]
    cases h with
    | mk _ hfresh => exact List.nodup_cons.mpr ⟨hfresh, hk.distinct⟩
  · intro other
    by_cases hfd : other = fd
    · rw [hfd, h.references_fd]
      exact List.nodup_singleton first
    · by_cases hlistener : other = listener
      · have hnodup := hk.nodup listener
        rw [h.references_listener] at hnodup
        rw [hlistener]
        exact (List.nodup_cons.mp hnodup).2
      · rw [references_congr (congrArg _ (h.file?_of_ne hfd hlistener))]
        exact hk.nodup other
  -- a reference by the new file is to the stream that nobody else refers to
  · intro one other index hone hother
    by_cases hone' : one = fd
    · by_cases hother' : other = fd
      · rw [hone', hother']
      · rw [hone', h.references_fd, List.mem_singleton] at hone
        exact absurd (hone ▸ hother) (hothers other hother')
    · by_cases hother' : other = fd
      · rw [hother', h.references_fd, List.mem_singleton] at hother
        exact absurd (hother ▸ hone) (hothers one hone')
      · exact hk.single one other index (h.references_subset hone' hone)
          (h.references_subset hother' hother)
  · intro other index hmem
    rw [h.streams]
    by_cases hfd : other = fd
    · rw [hfd, h.references_fd, List.mem_singleton] at hmem
      exact hmem ▸ hk.stands listener first hfirst
    · exact hk.stands other index (h.references_subset hfd hmem)

end Accepts

/-! ## The same files and streams -/

/-- Every file stands for what it stood for, whether its calls wait or not, and the
    streams are as they were. -/
structure Alike (k k' : Kernel) : Prop where
  handle : ∀ fd, (k'.file? fd).map OpenFile.handle = (k.file? fd).map OpenFile.handle
  openDescriptors : k'.openDescriptors = k.openDescriptors
  streams : k'.streams = k.streams

namespace Alike

theorem of_files (hfiles : k'.files = k.files) (hstreams : k'.streams = k.streams) :
    k.Alike k' where
  handle := fun fd => by rw [file?, hfiles, file?]
  openDescriptors := by rw [Kernel.openDescriptors, hfiles, Kernel.openDescriptors]
  streams := hstreams

variable (h : k.Alike k')

include h

theorem references_eq (fd : Descriptor) : k'.references fd = k.references fd :=
  references_congr (h.handle fd)

theorem index?_eq (fd : Descriptor) : k'.index? fd = k.index? fd := index?_congr (h.handle fd)

theorem stream?_eq (fd : Descriptor) : k'.stream? fd = k.stream? fd := by
  rw [stream?, h.index?_eq, h.streams, stream?]

theorem tidy (hk : k.Tidy) : k'.Tidy := by
  refine hk.of_subset ?_ (fun fd => ?_) (fun fd => ?_) (by rw [h.streams])
  · rw [h.openDescriptors]
    exact hk.distinct
  · rw [h.references_eq]
    exact hk.nodup fd
  · rw [h.references_eq]
    exact fun _ hi => hi

end Alike

/-- On a stream the call is not refused. -/
theorem setNonblocking_of_stream {index : Nat} {nonblocking : Bool}
    (hfile : k.file? fd = some ⟨.stream index, nonblocking⟩) :
    k.setNonblocking fd = (.ok (), k.setFile fd ⟨.stream index, true⟩) := by
  rw [setNonblocking, hfile]
  rfl

/-- Setting how calls wait changes nothing that files stand for. -/
theorem alike_setNonblocking (k : Kernel) (fd : Descriptor) : k.Alike (k.setNonblocking fd).2 := by
  refine ⟨?_, openDescriptors_setNonblocking k fd, ?_⟩
  · intro other
    rw [setNonblocking]
    cases hfile : k.file? fd with
    | none => rfl
    | some file =>
        dsimp only
        split
        · rfl
        by_cases hne : other = fd
        · subst hne
          show ((k.setFile other _).file? other).map OpenFile.handle = _
          rw [file?_setFile_self _ hfile, hfile]
          rfl
        · exact congrArg _ (file?_setFile_of_ne _ _ hne)
  · rw [setNonblocking]
    split
    · split <;> rfl
    · rfl

/-! ## Closing -/

/-- Streams change in their own end at most. -/
def Released (s s' : Stream) : Prop := ∃ ownEnd, s' = { s with ownEnd := ownEnd }

/-- Ending a queue aborts each stream in it once, and no other. -/
theorem streams_foldl_abort (queue : List Nat) (k : Kernel) (i : Nat) :
    ((queue.foldl (fun k index => k.onStream index Stream.abort) k).streams[i]?)
      = if i ∈ queue then (k.streams[i]?).map Stream.abort else k.streams[i]? := by
  -- on the queue; a stream that is in it twice is aborted once as well
  induction queue generalizing k with
  | nil => rfl
  | cons index rest ih =>
      have hmodify : (k.onStream index Stream.abort).streams[i]?
          = if index = i then (k.streams[i]?).map Stream.abort else k.streams[i]? := by
        show (k.streams.modify index Stream.abort)[i]? = _
        rw [List.getElem?_modify]
        split
        · rfl
        · exact Option.map_id_apply
      rw [List.foldl_cons, ih, hmodify]
      by_cases hrest : i ∈ rest
      · rw [if_pos hrest, if_pos (List.mem_cons_of_mem _ hrest)]
        split
        · rw [Option.map_map]
          rfl
        · rfl
      · rw [if_neg hrest]
        by_cases hindex : index = i
        · rw [if_pos hindex, if_pos (hindex ▸ List.mem_cons_self)]
        · rw [if_neg hindex, if_neg]
          exact fun hmem => (List.mem_cons.mp hmem).elim (fun h => hindex h.symm) hrest

/-- Closing an end of a stream closes that stream. -/
theorem streams_close_of_index (h : k.index? fd = some index) :
    (k.close fd).streams = k.streams.modify index Stream.close := by
  rw [close, index?_eq_some_iff.mp h]
  rfl

/-- Closing leaves the streams alone that the file does not refer to. -/
theorem streams_close_of_not_mem {i : Nat} (h : i ∉ k.references fd) :
    (k.close fd).streams[i]? = k.streams[i]? := by
  rw [references] at h
  rw [close]
  cases hhandle : (k.file? fd).map OpenFile.handle with
  | none => rfl
  | some handle =>
      rw [hhandle] at h
      cases handle with
      | stream index =>
          show (k.streams.modify index Stream.close)[i]? = _
          rw [List.getElem?_modify_ne]
          exact fun heq => h (List.mem_singleton.mpr heq.symm)
      | listener _ queue =>
          dsimp only
          rw [streams_foldl_abort, if_neg h]
      | socket _ => rfl
      | pipeReader _ => rfl
      | pipeWriter _ => rfl

/-- A stream that is there after closing was there before and lost at most its own end. -/
theorem released_close (k : Kernel) (fd : Descriptor) {i : Nat} {s' : Stream}
    (h : (k.close fd).streams[i]? = some s') : ∃ s, k.streams[i]? = some s ∧ Released s s' := by
  by_cases hmem : i ∈ k.references fd
  · rw [references] at hmem
    rw [close] at h
    -- only ends of streams and listeners refer to any
    cases hhandle : (k.file? fd).map OpenFile.handle with
    | none =>
        rw [hhandle] at hmem
        cases hmem
    | some handle =>
        rw [hhandle] at h hmem
        cases handle with
        | stream index =>
            obtain rfl := List.mem_singleton.mp hmem
            have hmodify : (k.streams.modify i Stream.close)[i]? = some s' := h
            rw [List.getElem?_modify_eq] at hmodify
            obtain ⟨s, hs, rfl⟩ := Option.map_eq_some_iff.mp hmodify
            exact ⟨s, hs, _, rfl⟩
        | listener _ queue =>
            dsimp only at h
            rw [streams_foldl_abort, if_pos hmem] at h
            obtain ⟨s, hs, rfl⟩ := Option.map_eq_some_iff.mp h
            exact ⟨s, hs, _, rfl⟩
        | socket _ => cases hmem
        | pipeReader _ => cases hmem
        | pipeWriter _ => cases hmem
  · rw [streams_close_of_not_mem hmem] at h
    exact ⟨s', h, s'.ownEnd, rfl⟩

/-- Streams stay on record when their file is closed. -/
theorem length_streams_close (k : Kernel) (fd : Descriptor) :
    (k.close fd).streams.length = k.streams.length := by
  have hfold : ∀ (queue : List Nat) (k : Kernel),
      (queue.foldl (fun k index => k.onStream index Stream.abort) k).streams.length
        = k.streams.length := by
    intro queue
    -- on the queue of a listener, which is all that touches several streams
    induction queue with
    | nil => exact fun _ => rfl
    | cons index rest ih =>
        intro k
        rw [List.foldl_cons, ih]
        exact List.length_modify _ _ _
  rw [close]
  split
  · exact List.length_modify _ _ _
  · exact hfold _ _
  · rfl

/-- Closing one file leaves the others' ends where they are. -/
theorem index?_close_of_ne (k : Kernel) (hne : other ≠ fd) :
    (k.close fd).index? other = k.index? other :=
  index?_congr (congrArg _ (file?_close_of_ne k hne))

namespace Tidy

variable (h : k.Tidy)

include h

/-- The closed number refers to nothing, and all others refer to what they did. -/
theorem references_close (fd other : Descriptor) :
    (k.close fd).references other = if other = fd then [] else k.references other := by
  by_cases hne : other = fd
  · rw [if_pos hne, hne, references_of_none (file?_close_self h.distinct)]
  · rw [if_neg hne, references_congr (congrArg _ (file?_close_of_ne k hne))]

/-- Closing takes references away and adds none. -/
theorem close (fd : Descriptor) : (k.close fd).Tidy := by
  refine h.of_subset ?_ (fun other => ?_) (fun other => ?_) (length_streams_close k fd)
  · rw [openDescriptors_close]
    exact h.distinct.erase fd
  · rw [h.references_close]
    split
    · exact List.nodup_nil
    · exact h.nodup other
  · rw [h.references_close]
    split
    · exact List.nil_subset _
    · exact fun _ hi => hi

/-- Others keep their streams as they are. -/
theorem stream?_close_of_ne (hne : other ≠ fd) : (k.close fd).stream? other = k.stream? other := by
  rw [stream?, index?_close_of_ne k hne, stream?]
  cases hother : k.index? other with
  | none => rfl
  | some i =>
      refine streams_close_of_not_mem ?_
      exact fun hmem => hne (h.single other fd i (mem_references_of_index hother) hmem)

end Tidy

/-! ## Changes at one number -/

/-- What the files under all other numbers refer to, and those streams, are left alone. -/
structure LocalTo (fd : Descriptor) (k k' : Kernel) : Prop where
  references : ∀ other, other ≠ fd → k'.references other = k.references other
  stream? : ∀ other, other ≠ fd → k'.stream? other = k.stream? other
  streams : ∀ other, other ≠ fd → ∀ i ∈ k.references other, k'.streams[i]? = k.streams[i]?

theorem LocalTo.trans {k'' : Kernel} (h : LocalTo fd k k') (h' : LocalTo fd k' k'') :
    LocalTo fd k k'' where
  references := fun other hne => (h'.references other hne).trans (h.references other hne)
  stream? := fun other hne => (h'.stream? other hne).trans (h.stream? other hne)
  streams := by
    intro other hne i hi
    rw [h'.streams other hne i (h.references other hne ▸ hi), h.streams other hne i hi]

/-- Where nothing changes, nothing changes elsewhere. -/
theorem Alike.localTo (h : k.Alike k') (fd : Descriptor) : LocalTo fd k k' where
  references := fun other _ => h.references_eq other
  stream? := fun other _ => h.stream?_eq other
  streams := fun _ _ _ _ => by rw [h.streams]

namespace Tidy

variable (h : k.Tidy)

include h

/-- Writing to the stream of a file is a change at that file. -/
theorem localTo_setStream (hindex : k.index? fd = some index) (s : Stream) :
    LocalTo fd k (k.setStream index s) where
  references := fun _ _ => rfl
  stream? := fun _ hne => h.stream?_setStream s hindex hne
  streams := fun _ hne _ hi => streams_setStream_of_ne s (h.index_ne hindex hi hne)

theorem localTo_close (fd : Descriptor) : LocalTo fd k (k.close fd) where
  references := fun other hne => by rw [h.references_close, if_neg hne]
  stream? := fun _ hne => h.stream?_close_of_ne hne
  streams := by
    intro other hne i hi
    exact streams_close_of_not_mem fun hmem => hne (h.single other fd i hi hmem)

end Tidy

/-! ## Clients -/

/-- A new stream waits in the queue of a listener. -/
inductive Connects (k : Kernel) (listener : Descriptor) : Kernel → Prop
  | mk {bound peer : Address} {queue : List Nat} {nonblocking : Bool} {port : Nat}
      (hlistener : k.file? listener = some ⟨.listener bound queue, nonblocking⟩) :
      Connects k listener
        (({ k with streams := k.streams ++ [Stream.fresh .tcp peer], nextPort := port } :
          Kernel).setFile
          listener ⟨.listener bound (queue ++ [k.streams.length]), nonblocking⟩)

/-- A client finds a listener with that address, whose queue it joins, or nothing happens. -/
theorem connect_cases (k : Kernel) (address : Address) :
    (k.connect address).2 = k ∨ ∃ listener, k.Connects listener (k.connect address).2 := by
  rw [connect]
  split
  · exact .inl rfl
  · split
    · exact .inl rfl
    · split
      · rename_i fd _ _ _ _ _ hfile
        exact .inr ⟨fd, .mk hfile⟩
      · exact .inl rfl

namespace Connects

variable {listener : Descriptor} (h : k.Connects listener k')

include h

/-- The client's stream is a new one, after all that were there. -/
theorem streams : ∃ peer, k'.streams = k.streams ++ [Stream.fresh .tcp peer] := by
  cases h
  exact ⟨_, rfl⟩

theorem file?_of_ne (hne : other ≠ listener) : k'.file? other = k.file? other := by
  cases h
  exact file?_setFile_of_ne _ _ hne

/-- The new stream is the last in the queue. -/
theorem file?_listener : ∃ bound queue nonblocking,
    k.file? listener = some ⟨.listener bound queue, nonblocking⟩
      ∧ k'.file? listener = some ⟨.listener bound (queue ++ [k.streams.length]), nonblocking⟩ := by
  cases h with
  | mk hlistener => exact ⟨_, _, _, hlistener, file?_setFile_self _ hlistener⟩

/-- The listener refers to one stream more. -/
theorem references_listener :
    k'.references listener = k.references listener ++ [k.streams.length] := by
  obtain ⟨_, _, _, hold, hnew⟩ := h.file?_listener
  rw [references_of_listener hold, references_of_listener hnew]

theorem references_of_ne (hne : other ≠ listener) : k'.references other = k.references other :=
  references_congr (congrArg _ (h.file?_of_ne hne))

theorem index?_eq (fd : Descriptor) : k'.index? fd = k.index? fd := by
  by_cases hne : fd = listener
  · obtain ⟨_, _, _, hold, hnew⟩ := h.file?_listener
    rw [hne, index?_of_listener hold, index?_of_listener hnew]
  · exact index?_congr (congrArg _ (h.file?_of_ne hne))

/-- Streams that are there stay as they are. -/
theorem streams_of_some {i : Nat} {s : Stream} (hstream : k.streams[i]? = some s) :
    k'.streams[i]? = some s := by
  obtain ⟨peer, heq⟩ := h.streams
  rw [heq, List.getElem?_append_left (List.getElem?_eq_some_iff.mp hstream).1]
  exact hstream

/-- Whoever had a stream has it still. -/
theorem stream?_of_some {s : Stream} (hstream : k.stream? fd = some s) :
    k'.stream? fd = some s := by
  obtain ⟨index, hindex, hs⟩ := stream?_eq_some_iff.mp hstream
  exact stream?_eq_some_iff.mpr ⟨index, (h.index?_eq fd).trans hindex, h.streams_of_some hs⟩

/-- Whoever refers to a stream that was there before did so before. -/
theorem mem_references {i : Nat} (hmem : i ∈ k'.references other) :
    i ∈ k.references other ∨ other = listener ∧ i = k.streams.length := by
  by_cases hne : other = listener
  · rw [hne, h.references_listener] at hmem
    rcases List.mem_append.mp hmem with hold | hlast
    · exact .inl (hne ▸ hold)
    · exact .inr ⟨hne, List.mem_singleton.mp hlast⟩
  · rw [h.references_of_ne hne] at hmem
    exact .inl hmem

/-- The new stream has the listener for its only referrer. -/
theorem tidy (hk : k.Tidy) : k'.Tidy := by
  -- the new stream is past all that were there, so nobody refers to it yet
  have hnew : ∀ fd, k.streams.length ∉ k.references fd :=
    fun fd hmem => absurd (hk.stands fd _ hmem) (Nat.lt_irrefl _)
  refine ⟨?_, ?_, ?_, ?_⟩
  · have hopen : k'.openDescriptors = k.openDescriptors := by
      cases h
      exact openDescriptors_setFile _ _ _
    rw [hopen]
    exact hk.distinct
  · intro fd
    by_cases hne : fd = listener
    · rw [hne, h.references_listener, List.nodup_append]
      refine ⟨hk.nodup listener, List.nodup_singleton _, ?_⟩
      rintro i hi j hj rfl
      rw [List.mem_singleton.mp hj] at hi
      exact hnew listener hi
    · rw [h.references_of_ne hne]
      exact hk.nodup fd
  · intro fd other i hfd hother
    rcases h.mem_references hfd with hold | ⟨rfl, rfl⟩
    · rcases h.mem_references hother with hold' | ⟨_, rfl⟩
      · exact hk.single fd other i hold hold'
      · exact absurd hold (hnew fd)
    · rcases h.mem_references hother with hold' | ⟨rfl, _⟩
      · exact absurd hold' (hnew other)
      · rfl
  · intro fd i hmem
    obtain ⟨peer, heq⟩ := h.streams
    rw [heq, List.length_append]
    rcases h.mem_references hmem with hold | ⟨_, rfl⟩
    · exact Nat.lt_of_lt_of_le (hk.stands fd i hold) (Nat.le_add_right _ _)
    · exact Nat.lt_succ_self _

end Connects

/-! ## Listening -/

/-- The file under a number is a listener. -/
def Listens (k : Kernel) (fd : Descriptor) : Prop :=
  ∃ address queue, (k.file? fd).map OpenFile.handle = some (.listener address queue)

namespace Listens

variable {listener : Descriptor} (h : k.Listens other)

include h

/-- A listener is open, so it is none of the free numbers. -/
theorem ne_of_fresh (hfresh : fd ∉ k.openDescriptors) : other ≠ fd := by
  rintro rfl
  obtain ⟨_, _, hhandle⟩ := h
  rw [file?_eq_none_iff.mpr hfresh] at hhandle
  cases hhandle

/-- A listener remains one where files stand for what they stood for. -/
theorem alike (halike : k.Alike k') : k'.Listens other := by
  obtain ⟨address, queue, hhandle⟩ := h
  exact ⟨address, queue, (halike.handle other).trans hhandle⟩

/-- What a listener refers to is its queue. -/
theorem queue_eq : k.queue other = k.references other := by
  obtain ⟨_, _, hhandle⟩ := h
  rw [queue, references, hhandle]

/-- A wait finds a listener readable exactly if somebody waits in its queue. -/
theorem readiness_eq :
    k.readiness other .listener = if (k.references other).isEmpty then EventMask.empty
    else .readable := by
  obtain ⟨_, queue, hhandle⟩ := h
  rw [readiness, condition, references, hhandle]
  dsimp only
  split <;> rfl

/-- Where nobody waits, nobody is accepted. -/
theorem accept_of_nobody (hnobody : k.queue other = []) (hfree : k.admits k.lowestFree = true) :
    k.accept other = (.error .again, k) := by
  obtain ⟨address, queue, hhandle⟩ := h
  obtain ⟨⟨_, nonblocking⟩, hfile, rfl⟩ := Option.map_eq_some_iff.mp hhandle
  rw [Kernel.queue, hhandle] at hnobody
  obtain rfl : queue = [] := hnobody
  rw [Kernel.accept, acceptAt, if_pos hfree, take, hfile]

theorem accept {first : Nat} (haccepts : k.Accepts listener fd first k') : k'.Listens other := by
  have hfd := h.ne_of_fresh haccepts.fresh
  obtain ⟨address, queue, hhandle⟩ := h
  by_cases hlistener : other = listener
  · subst hlistener
    cases haccepts with
    | @mk bound rest _ hfile _ =>
        refine ⟨bound, rest, ?_⟩
        rw [file?_openAt_of_ne _ _ hfd, file?_setFile_self _ hfile]
        rfl
  · rw [← haccepts.file?_of_ne hfd hlistener] at hhandle
    exact ⟨address, queue, hhandle⟩

/-- A listener remains one when another file is closed. -/
theorem close (hne : other ≠ fd) : (k.close fd).Listens other := by
  obtain ⟨address, queue, hhandle⟩ := h
  rw [← file?_close_of_ne k hne] at hhandle
  exact ⟨address, queue, hhandle⟩

/-- A listener remains one when a client joins a queue. -/
theorem connect (hconnects : k.Connects listener k') : k'.Listens other := by
  by_cases hlistener : other = listener
  · obtain ⟨bound, queue, _, _, hnew⟩ := hconnects.file?_listener
    refine ⟨bound, queue ++ [k.streams.length], ?_⟩
    rw [hlistener, hnew]
    rfl
  · obtain ⟨address, queue, hhandle⟩ := h
    rw [← hconnects.file?_of_ne hlistener] at hhandle
    exact ⟨address, queue, hhandle⟩

end Listens

end Kernel

end EventLoop
