import EventLoop.DescriptorTable
import Mathlib.Data.List.Nodup

/-! # Looking descriptors up in tables

    What the operations on a table do to its keys and to what is found under
    them. With distinct keys a value is found exactly under its key
    (`mem_of_get?`, `get?_of_mem`); erasing and changing one descriptor leaves what is
    found under every other one (`get?_erase_of_ne`, `get?_modify_of_ne`). -/

namespace EventLoop

namespace DescriptorTable

variable {V : Type} {t : DescriptorTable V} {fd other : Descriptor}

/-- Nothing is found exactly under the numbers that are no keys. -/
theorem get?_eq_none_iff : t.get? fd = none ↔ fd ∉ t.keys := by
  rw [get?, keys, List.lookup_eq_none_iff]
  constructor
  · intro h hmem
    obtain ⟨p, hp, rfl⟩ := List.mem_map.mp hmem
    have := h p hp
    simp at this
  · intro h p hp
    have hne : fd ≠ p.1 := fun heq => h (heq ▸ List.mem_map_of_mem hp)
    simpa using hne

theorem contains_eq_true_iff : t.contains fd = true ↔ fd ∈ t.keys := by
  rw [contains, Option.isSome_iff_ne_none, ne_eq, get?_eq_none_iff, not_not]

/-- Under every key something is found. -/
theorem exists_get?_of_mem_keys (h : fd ∈ t.keys) : ∃ v, t.get? fd = some v := by
  rw [← Option.isSome_iff_exists]
  exact contains_eq_true_iff.mpr h

/-- What is found stands in the table. -/
theorem mem_of_get? {v : V} (h : t.get? fd = some v) : (fd, v) ∈ t.entries := by
  rw [get?, List.lookup_eq_some_iff] at h
  obtain ⟨front, back, heq, _⟩ := h
  rw [heq]
  exact List.mem_append_right _ List.mem_cons_self

/-- With distinct keys, what stands in the table is found. -/
theorem get?_of_mem {v : V} (hkeys : t.keys.Nodup) (h : (fd, v) ∈ t.entries) :
    t.get? fd = some v := by
  obtain ⟨front, back, heq⟩ := List.append_of_mem h
  rw [get?, List.lookup_eq_some_iff]
  refine ⟨front, back, heq, ?_⟩
  intro p hp
  rw [keys, heq, List.map_append, List.map_cons] at hkeys
  have hne : fd ≠ p.1 := by
    intro heq'
    have hfront : fd ∈ front.map Prod.fst := heq' ▸ List.mem_map_of_mem hp
    exact (List.nodup_append.mp hkeys).2.2 _ hfront _ List.mem_cons_self rfl
  simpa using hne

/-! ## Inserting -/

/-- A free descriptor is put behind the others. -/
theorem insert_of_not_contains (v : V) (h : t.contains fd = false) :
    t.insert fd v = .ok ⟨t.entries ++ [(fd, v)]⟩ := by
  rw [insert, h]
  rfl

/-! ## Erasing -/

/-- Erasing takes a key out and keeps the order of the others. -/
theorem keys_erase (t : DescriptorTable V) (fd : Descriptor) :
    (t.erase fd).keys = t.keys.filter (· ≠ fd) := by
  rw [keys, erase, keys, List.filter_map]
  rfl

theorem get?_erase_self (t : DescriptorTable V) (fd : Descriptor) :
    (t.erase fd).get? fd = none := by
  rw [get?_eq_none_iff, keys_erase]
  intro hmem
  have := (List.mem_filter.mp hmem).2
  simp at this

/-- What was not erased is found as before. -/
theorem get?_erase_of_ne (t : DescriptorTable V) (hne : other ≠ fd) :
    (t.erase fd).get? other = t.get? other := by
  rw [get?, get?, erase]
  show (t.entries.filter _).lookup other = t.entries.lookup other
  -- on the entries: those that are filtered out have another key
  induction t.entries with
  | nil => rfl
  | cons entry rest ih =>
      obtain ⟨key, v⟩ := entry
      by_cases hkey : key = fd
      · rw [List.filter_cons_of_neg (by simpa using hkey), ih, List.lookup_cons]
        rw [show (other == key) = false from beq_eq_false_iff_ne.mpr (hkey ▸ hne)]
      · rw [List.filter_cons_of_pos (by simpa using hkey), List.lookup_cons, List.lookup_cons, ih]

/-! ## Changing a value -/

theorem get?_modify_self (t : DescriptorTable V) (fd : Descriptor) (f : V → V) :
    (t.modify fd f).get? fd = (t.get? fd).map f := by
  rw [get?, get?, modify]
  -- on the entries up to the key
  induction t.entries with
  | nil => rfl
  | cons entry rest ih =>
      obtain ⟨key, v⟩ := entry
      rw [List.map_cons, List.lookup_cons]
      by_cases hkey : key = fd
      · simp [hkey]
      · have hkey' : (fd == key) = false := beq_eq_false_iff_ne.mpr (Ne.symm hkey)
        simp only [if_neg hkey, List.lookup_cons, hkey']
        exact ih

/-- A change is seen under no other key. -/
theorem get?_modify_of_ne (t : DescriptorTable V) (f : V → V) (hne : other ≠ fd) :
    (t.modify fd f).get? other = t.get? other := by
  rw [get?, get?, modify]
  induction t.entries with
  | nil => rfl
  | cons entry rest ih =>
      obtain ⟨key, v⟩ := entry
      rw [List.map_cons, List.lookup_cons]
      by_cases hkey : key = fd
      · have hother : (other == key) = false := beq_eq_false_iff_ne.mpr (hkey ▸ hne)
        simp only [if_pos hkey, List.lookup_cons, hother]
        exact ih
      · simp only [if_neg hkey, List.lookup_cons, ih]

/-- There is nothing to change under a free descriptor. -/
theorem modify_of_none (f : V → V) (h : t.get? fd = none) : t.modify fd f = t := by
  have hfree := get?_eq_none_iff.mp h
  refine congrArg DescriptorTable.mk ?_
  refine (List.map_congr_left ?_).trans (List.map_id t.entries)
  rintro ⟨key, v⟩ hentry
  have hne : key ≠ fd := by
    rintro rfl
    exact hfree (List.mem_map_of_mem hentry)
  exact if_neg hne

/-- What stands behind all others, under a descriptor that was free, is changed there. -/
theorem entries_modify_append {t' : DescriptorTable V} {v : V} (f : V → V)
    (hentries : t'.entries = t.entries ++ [(fd, v)]) (h : t.get? fd = none) :
    (t'.modify fd f).entries = t.entries ++ [(fd, f v)] := by
  have hothers := congrArg DescriptorTable.entries (modify_of_none f h)
  show t'.entries.map _ = _
  rw [hentries, List.map_append]
  refine congrArg₂ (· ++ ·) hothers ?_
  show [if fd = fd then (fd, f v) else (fd, v)] = _
  rw [if_pos rfl]

/-- Two changes under one key are one. -/
theorem modify_modify (t : DescriptorTable V) (fd : Descriptor) (f g : V → V) :
    (t.modify fd f).modify fd g = t.modify fd fun v => g (f v) := by
  rw [modify, modify, modify, List.map_map]
  refine congrArg DescriptorTable.mk (List.map_congr_left ?_)
  rintro ⟨key, v⟩ _
  rw [Function.comp_apply]
  by_cases hkey : key = fd
  · simp only [if_pos hkey]
  · simp only [if_neg hkey]

/-- Changes bring no keys and take none. -/
theorem keys_modify (t : DescriptorTable V) (fd : Descriptor) (f : V → V) :
    (t.modify fd f).keys = t.keys := by
  rw [keys, modify, keys, List.map_map]
  refine List.map_congr_left ?_
  rintro ⟨key, v⟩ _
  rw [Function.comp_apply]
  by_cases hkey : key = fd
  · simp only [if_pos hkey]
  · simp only [if_neg hkey]

/-- What is taken away need not be changed before. -/
theorem erase_modify (t : DescriptorTable V) (fd : Descriptor) (f : V → V) :
    (t.modify fd f).erase fd = t.erase fd := by
  rw [erase, modify, erase]
  refine congrArg DescriptorTable.mk ?_
  -- on the entries: what is changed is what is erased
  induction t.entries with
  | nil => rfl
  | cons entry rest ih =>
      obtain ⟨key, v⟩ := entry
      rw [List.map_cons, List.filter_cons, List.filter_cons, ih]
      by_cases hkey : key = fd
      · simp [hkey]
      · simp [hkey]

/-- With distinct descriptors a value and all others are all there is. -/
theorem perm_erase {v : V} (hkeys : t.keys.Nodup) (h : t.get? fd = some v) :
    t.entries.Perm ((fd, v) :: (t.erase fd).entries) := by
  obtain ⟨front, back, heq, hfront⟩ := List.lookup_eq_some_iff.mp h
  rw [keys, heq, List.map_append, List.map_cons, List.nodup_middle, List.nodup_cons] at hkeys
  have hothers : ∀ entry ∈ front ++ back, entry.1 ≠ fd := by
    intro entry hentry hkey
    refine hkeys.1 ?_
    rw [← List.map_append]
    exact List.mem_map.mpr ⟨entry, hentry, hkey⟩
  have hkept : (front ++ back).filter (fun entry => decide (entry.1 ≠ fd)) = front ++ back :=
    List.filter_eq_self.mpr fun entry hentry => decide_eq_true (hothers entry hentry)
  have herase : (t.erase fd).entries = front ++ back := by
    show t.entries.filter (fun entry => decide (entry.1 ≠ fd)) = _
    rw [heq, List.filter_append, List.filter_cons_of_neg (by simp), ← List.filter_append, hkept]
  rw [heq, herase]
  exact List.perm_middle

theorem size_modify (t : DescriptorTable V) (fd : Descriptor) (f : V → V) :
    (t.modify fd f).size = t.size :=
  List.length_map _

/-- Erasing a key that is there makes the table smaller by one. -/
theorem size_eq_size_erase {v : V} (hkeys : t.keys.Nodup) (h : t.get? fd = some v) :
    t.size = (t.erase fd).size + 1 := (perm_erase hkeys h).length_eq

end DescriptorTable

end EventLoop
