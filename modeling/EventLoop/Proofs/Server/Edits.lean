import EventLoop.Proofs.Kernel.Holders
import EventLoop.Proofs.PollSet.Interests
import EventLoop.Proofs.PollSet.Watchlist

/-! # Edits under one descriptor

    The table, the readiness set and the open files are lists with a descriptor for each
    entry. What is done for one connection changes or takes out the entries of its
    descriptor (`edit`): others keep their places and what stands there (`filter_edit`,
    `lookup_edit`), and edits under two descriptors can be made in any order (`edit_comm`).

    * `DescriptorTable.modify_eq_edit`, `DescriptorTable.erase_eq_edit`: the table.
    * `PollSet.Edited`: the set, where an entry that is taken out leaves an unused slot.
    * `Kernel.close_eq_edit`: a file of a stream that is closed. -/

namespace EventLoop

variable {α : Type} {key : α → Descriptor} {f g : α → Option α} {fd other : Descriptor}
  {entries : List α}

/-- The entries under a descriptor are changed or taken out. -/
def edit (key : α → Descriptor) (fd : Descriptor) (f : α → Option α) (entries : List α) : List α :=
  entries.filterMap fun e => if key e = fd then f e else some e

/-- What an entry becomes stands under its descriptor. -/
def KeepsKey (key : α → Descriptor) (f : α → Option α) : Prop :=
  ∀ e e', f e = some e' → key e' = key e

theorem edit_cons_self {e : α} (hfd : key e = fd) :
    edit key fd f (e :: entries) = (f e).toList ++ edit key fd f entries := by
  rw [edit, List.filterMap_cons, if_pos hfd]
  cases f e <;> rfl

theorem edit_cons_of_ne {e : α} (hne : key e ≠ fd) :
    edit key fd f (e :: entries) = e :: edit key fd f entries := by
  rw [edit, List.filterMap_cons, if_neg hne]
  rfl

/-- Without an entry for the descriptor there is nothing to edit. -/
theorem edit_of_not_mem (hnew : fd ∉ entries.map key) : edit key fd f entries = entries := by
  induction entries with
  | nil => rfl
  | cons e rest ih =>
      rw [List.map_cons, List.mem_cons, not_or] at hnew
      rw [edit_cons_of_ne (Ne.symm hnew.1), ih hnew.2]

theorem edit_congr (h : ∀ e, key e = fd → f e = g e) :
    edit key fd f entries = edit key fd g entries := by
  refine List.filterMap_congr fun e _ => ?_
  by_cases hfd : key e = fd
  · rw [if_pos hfd, if_pos hfd, h e hfd]
  · rw [if_neg hfd, if_neg hfd]

theorem edit_some (key : α → Descriptor) (fd : Descriptor) (entries : List α) :
    edit key fd some entries = entries := by
  induction entries with
  | nil => rfl
  | cons e rest ih =>
      by_cases hfd : key e = fd
      · rw [edit_cons_self hfd, ih]
        rfl
      · rw [edit_cons_of_ne hfd, ih]

/-- Edits add no entries. -/
theorem length_edit_le (key : α → Descriptor) (fd : Descriptor) (f : α → Option α)
    (entries : List α) :
    (edit key fd f entries).length ≤ entries.length := List.length_filterMap_le _ _

/-- Edits under two descriptors can be made in any order. -/
theorem edit_comm (hf : KeepsKey key f) (hg : KeepsKey key g) (hne : fd ≠ other) :
    edit key fd f (edit key other g entries) = edit key other g (edit key fd f entries) := by
  rw [edit, edit, edit, edit, List.filterMap_filterMap, List.filterMap_filterMap]
  refine List.filterMap_congr fun e _ => ?_
  by_cases hfd : key e = fd
  · have hother : key e ≠ other := fun heq => hne (hfd.symm.trans heq)
    rw [if_pos hfd, if_neg hother, Option.bind_some, if_pos hfd]
    cases hchanged : f e with
    | none => rfl
    | some e' => rw [Option.bind_some, if_neg fun heq => hother ((hf e e' hchanged).symm.trans heq)]
  · rw [if_neg hfd, Option.bind_some]
    by_cases hother : key e = other
    · rw [if_pos hother]
      cases hchanged : g e with
      | none => rfl
      | some e' => rw [Option.bind_some, if_neg fun heq => hfd ((hg e e' hchanged).symm.trans heq)]
    · rw [if_neg hother, Option.bind_some, if_neg hfd]

/-- All others stand where they stood, in their order. -/
theorem filter_edit (hf : KeepsKey key f) :
    (edit key fd f entries).filter (fun e => decide (key e ≠ fd)) = entries.filter fun e =>
      decide (key e ≠ fd) := by
  -- on the entries: the filter drops just what an edit may touch
  induction entries with
  | nil => rfl
  | cons e rest ih =>
      by_cases hfd : key e = fd
      · rw [edit_cons_self hfd, List.filter_append, ih,
          List.filter_cons_of_neg (by simpa using hfd)]
        cases hchanged : f e with
        | none => rfl
        | some e' =>
            have hsame : key e' = fd := (hf e e' hchanged).trans hfd
            rw [Option.toList_some, List.filter_cons_of_neg (by simpa using hsame)]
            rfl
      · rw [edit_cons_of_ne hfd, List.filter_cons_of_pos (by simpa using hfd),
          List.filter_cons_of_pos (by simpa using hfd), ih]

/-- And so does what is looked up of them. -/
theorem lookup_edit {β : Type} (value : α → β) (hf : KeepsKey key f) (hne : other ≠ fd) :
    ((edit key fd f entries).map fun e => (key e, value e)).lookup other
      = (entries.map fun e => (key e, value e)).lookup other := by
  -- on the entries: an edit of another key is passed by
  induction entries with
  | nil => rfl
  | cons e rest ih =>
      by_cases hfd : key e = fd
      · have hmiss : (other == key e) = false := beq_eq_false_iff_ne.mpr (hfd ▸ hne)
        rw [edit_cons_self hfd, List.map_append, List.lookup_append, ih, List.map_cons,
          List.lookup_cons, hmiss]
        cases hchanged : f e with
        | none => rfl
        | some e' =>
            rw [Option.toList_some, List.map_singleton, List.lookup_cons, hf e e' hchanged, hmiss]
            rfl
      · rw [edit_cons_of_ne hfd, List.map_cons, List.map_cons, List.lookup_cons, List.lookup_cons,
          ih]

/-- Under other descriptors the same is found after an edit. -/
theorem lookup_edit_fst {β : Type} {entries : List (Descriptor × β)}
    {f : Descriptor × β → Option (Descriptor × β)} (hf : KeepsKey Prod.fst f) (hne : other ≠ fd) :
    (edit Prod.fst fd f entries).lookup other = entries.lookup other := by
  have hsame : ((edit Prod.fst fd f entries).map fun e => (e.1, e.2)).lookup other
      = (entries.map fun e => (e.1, e.2)).lookup other := lookup_edit Prod.snd hf hne
  rwa [List.map_id', List.map_id'] at hsame

/-- The first entry stands under another descriptor. -/
theorem head?_edit {e : α} (hfirst : entries.head? = some e) (hne : key e ≠ fd) :
    (edit key fd f entries).head? = some e := by
  obtain ⟨rest, rfl⟩ := List.head?_eq_some_iff.mp hfirst
  rw [edit_cons_of_ne hne]
  rfl

/-- With distinct descriptors the first entry of one is the only one: it is taken out. -/
theorem eraseP_eq_edit (hdistinct : (entries.map key).Nodup) :
    entries.eraseP (key · == fd) = edit key fd (fun _ => none) entries := by
  -- on the entries: after the first match there is no other
  induction entries with
  | nil => rfl
  | cons e rest ih =>
      rw [List.map_cons, List.nodup_cons] at hdistinct
      by_cases hfd : key e = fd
      · rw [List.eraseP_cons_of_pos (by simpa using hfd), edit_cons_self hfd,
          edit_of_not_mem (hfd ▸ hdistinct.1)]
        rfl
      · rw [List.eraseP_cons_of_neg (by simpa using hfd), edit_cons_of_ne hfd, ih hdistinct.2]

/-- Or written over. -/
theorem set_eq_edit (hdistinct : (entries.map key).Nodup) {i : Nat}
    (hfirst : entries.findIdx? (key · == fd) = some i) (x : α) :
    entries.set i x = edit key fd (fun _ => some x) entries := by
  -- on the entries up to the place of the descriptor
  induction entries generalizing i with
  | nil => cases hfirst
  | cons e rest ih =>
      rw [List.map_cons, List.nodup_cons] at hdistinct
      rw [List.findIdx?_cons] at hfirst
      by_cases hfd : key e = fd
      · rw [if_pos (beq_iff_eq.mpr hfd)] at hfirst
        obtain rfl := Option.some.inj hfirst
        rw [edit_cons_self hfd, edit_of_not_mem (hfd ▸ hdistinct.1)]
        rfl
      · rw [if_neg fun heq => hfd (beq_iff_eq.mp heq)] at hfirst
        obtain ⟨j, hj, rfl⟩ := Option.map_eq_some_iff.mp hfirst
        rw [List.set_cons_succ, edit_cons_of_ne hfd, ih hdistinct.2 hj]

/-! ## Tables -/

namespace DescriptorTable

variable {V : Type}

theorem modify_eq_edit (t : DescriptorTable V) (fd : Descriptor) (v : V) :
    t.modify fd (fun _ => v) = ⟨edit Prod.fst fd (fun e => some (e.1, v)) t.entries⟩ := by
  rw [modify, edit, ← List.filterMap_eq_map]
  refine congrArg DescriptorTable.mk (List.filterMap_congr ?_)
  rintro ⟨key, _⟩ _
  rw [Function.comp_apply]
  by_cases hfd : key = fd
  · simp only [if_pos hfd]
  · simp only [if_neg hfd]

theorem erase_eq_edit (t : DescriptorTable V) (fd : Descriptor) :
    t.erase fd = ⟨edit Prod.fst fd (fun _ => none) t.entries⟩ := by
  rw [erase, edit, ← List.filterMap_eq_filter]
  refine congrArg DescriptorTable.mk (List.filterMap_congr fun e _ => ?_)
  by_cases hfd : e.1 = fd
  · rw [if_pos hfd, Option.guard_eq_none_iff.mpr (by simpa using hfd)]
  · rw [if_neg hfd, Option.guard_eq_some_iff.mpr ⟨rfl, by simpa using hfd⟩]

end DescriptorTable

/-! ## Readiness sets -/

namespace PollSet

variable {p p' q q' : PollSet} {f g : PollEntry → Option PollEntry} {interest : EventMask}

/-- A set with the same slots behind the same entries is the same. -/
theorem ext_of_toList (hp : p.WellFormed) (hq : q.WellFormed) (hlist : p.toList = q.toList)
    (hspare : p.spare = q.spare) (htimeout : p.timeout = q.timeout) : p = q := by
  have hregistered : p.registered = q.registered := by
    rw [← length_toList hp, ← length_toList hq, hlist]
  have hslots : p.slots = q.slots := by
    rw [← Array.toList_inj, ← List.take_append_drop p.registered p.slots.toList,
      ← List.take_append_drop q.registered q.slots.toList]
    exact congrArg₂ (· ++ ·) hlist hspare
  cases p
  cases q
  cases hslots
  cases hregistered
  cases htimeout
  rfl

/-- The entries of one descriptor were changed or taken out, and what this freed is unused. -/
structure Edited (p : PollSet) (fd : Descriptor) (f : PollEntry → Option PollEntry) (p' : PollSet) :
    Prop where
  wellFormed : p'.WellFormed
  toList : p'.toList = edit PollEntry.fd fd f p.toList
  spare : p'.spare = List.replicate (p.registered - p'.registered) .unused ++ p.spare
  timeout : p'.timeout = p.timeout

/-- An edited set counts no more entries than before. -/
theorem Edited.registered_le (h : p.Edited fd f p') (hp : p.WellFormed) :
    p'.registered ≤ p.registered := by
  rw [← length_toList h.wellFormed, ← length_toList hp, h.toList]
  exact length_edit_le _ _ _ _

theorem edited_refl (hp : p.WellFormed) (fd : Descriptor) : p.Edited fd some p where
  wellFormed := hp
  toList := (edit_some _ _ _).symm
  spare := by
    rw [Nat.sub_self]
    rfl
  timeout := rfl

/-- A descriptor that is registered again. -/
theorem edited_add (hp : p.WellFormed) (hdistinct : p.descriptors.Nodup) (hmem : fd ∈ p.descriptors)
    (h : p.add fd interest = .ok p') : p.Edited fd (fun e => some ⟨e.fd, interest, .empty⟩) p' := by
  obtain ⟨hwf, _, ⟨i, hpos, _, hlist⟩ | ⟨hnew, _, _⟩⟩ := add_cases hp h
  · obtain ⟨hregistered, hspare, htimeout⟩ := add_known hp hpos h
    refine ⟨hwf, ?_, ?_, htimeout⟩
    · rw [hlist, set_eq_edit hdistinct hpos]
      exact edit_congr fun e hfd => by rw [hfd]
    · rw [hregistered, Nat.sub_self, hspare]
      rfl
  · exact absurd hmem hnew

/-- A descriptor that is taken out. -/
theorem edited_remove (hp : p.WellFormed) (hdistinct : p.descriptors.Nodup)
    (hmem : fd ∈ p.descriptors) :
    p.Edited fd (fun _ => none) (p.remove fd).2 := by
  refine ⟨remove_wellFormed hp fd, (toList_remove hp fd).trans (eraseP_eq_edit hdistinct), ?_, ?_⟩
  · cases hpos : p.position? fd with
    | none => exact absurd hmem (position?_eq_none_iff.mp hpos)
    | some i =>
        obtain ⟨hi, _⟩ := fd_at_position hpos
        rw [length_toList hp] at hi
        have hfreed : p.registered - (p.remove fd).2.registered = 1 := by
          rw [remove, hpos]
          show p.registered - (p.registered - 1) = 1
          omega
        rw [spare_remove hp hpos, hfreed]
        rfl
  · rw [remove]
    split <;> rfl

/-- Edits under two descriptors come to the same set in any order. -/
theorem Edited.comm {p₁ p₂ : PollSet} (hp : p.WellFormed) (hf : KeepsKey PollEntry.fd f)
    (hg : KeepsKey PollEntry.fd g)
    (hne : fd ≠ other) (h₁ : p.Edited fd f p₁) (h : p₁.Edited other g p') (h₂ : p.Edited other g p₂)
    (h' : p₂.Edited fd f q') : p' = q' := by
  have hlist : p'.toList = q'.toList := by
    rw [h.toList, h₁.toList, h'.toList, h₂.toList, edit_comm hg hf (Ne.symm hne)]
  have hlength : p'.registered = q'.registered := by
    rw [← length_toList h.wellFormed, ← length_toList h'.wellFormed, hlist]
  have hle₁ := h₁.registered_le hp
  have hle := h.registered_le h₁.wellFormed
  have hle₂ := h₂.registered_le hp
  have hle' := h'.registered_le h₂.wellFormed
  refine ext_of_toList h.wellFormed h'.wellFormed hlist ?_ ?_
  · -- both ways as many slots were freed
    rw [h.spare, h₁.spare, h'.spare, h₂.spare, ← List.append_assoc, ← List.append_assoc,
      List.replicate_append_replicate, List.replicate_append_replicate]
    congr 2
    omega
  · rw [h.timeout, h₁.timeout, h'.timeout, h₂.timeout]

end PollSet

/-! ## Files -/

namespace Kernel

variable {k : Kernel} {index : Nat}

/-- Closing an end of a stream edits the files and closes the stream. -/
theorem close_eq_edit {s : Stream} (hdistinct : k.openDescriptors.Nodup)
    (hindex : k.index? fd = some index) (hstream : k.streams[index]? = some s) :
    k.close fd = { k with
      files := edit Prod.fst fd (fun _ => none) k.files
      streams := k.streams.set index s.close } := by
  rw [close, index?_eq_some_iff.mp hindex, ← eraseP_eq_edit hdistinct]
  exact onStream_eq_setStream Stream.close hstream

end Kernel

end EventLoop
