import EventLoop.PollSet.Wait
import EventLoop.Proofs.Kernel.Descriptors
import Mathlib.Data.List.Nodup

/-! # Readiness sets as lists of entries

    Each operation on a readiness set, said of its list of entries:

    * registering a known descriptor replaces its entry in place, a new one goes
      behind the others (`add_cases`);
    * removing takes the first entry of the descriptor out (`toList_remove`);
    * a wait changes results only (`wait_cases`, `toList_record_map`), and one that is not
      refused gives each entry what the system says of it (`waitTimeout_answers`).

    For all of them the slots in use are the first ones (`WellFormed`). -/

namespace EventLoop

namespace PollSet

variable {p p' : PollSet} {fd : Descriptor}

/-- No more slots are in use than there are. -/
def WellFormed (p : PollSet) : Prop := p.registered ≤ p.capacity

/-- The registered descriptors in order. -/
def descriptors (p : PollSet) : List Descriptor := p.toList.map PollEntry.fd

/-- There are as many entries as are counted. -/
theorem length_toList (h : p.WellFormed) : p.toList.length = p.registered := by
  rw [toList, List.length_take, Array.length_toList]
  exact Nat.min_eq_left h

theorem length_descriptors (h : p.WellFormed) : p.descriptors.length = p.registered := by
  rw [descriptors, List.length_map, length_toList h]

/-- A descriptor has no place exactly when it has no entry. -/
theorem position?_eq_none_iff : p.position? fd = none ↔ fd ∉ p.descriptors := by
  rw [position?, List.findIdx?_eq_none_iff, descriptors]
  constructor
  · intro h hmem
    obtain ⟨e, he, hfd⟩ := List.mem_map.mp hmem
    exact absurd hfd (by simpa using h e he)
  · intro h e he
    have hne : e.fd ≠ fd := fun heq => h (heq ▸ List.mem_map_of_mem he)
    simpa using hne

/-- At the place of a descriptor stands its entry. -/
theorem fd_at_position {i : Nat} (h : p.position? fd = some i) :
    ∃ hi : i < p.toList.length, p.toList[i].fd = fd := by
  obtain ⟨hi, hfd, _⟩ := List.findIdx?_eq_some_iff_getElem.mp h
  exact ⟨hi, by simpa using hfd⟩

/-- A set that was created has no entries yet. -/
theorem empty_wellFormed {capacity : Nat} {memory memory' : Allocator}
    (h : create capacity memory = (.ok p, memory')) : p.WellFormed ∧ p.toList = [] := by
  rw [create] at h
  by_cases hzero : capacity = 0
  · rw [if_pos hzero] at h
    cases h
  · rw [if_neg hzero] at h
    rcases hreq : memory.request (slotBytes * capacity) with ⟨granted, rest⟩
    rw [hreq] at h
    cases granted with
    | false => cases h
    | true =>
        obtain rfl := Except.ok.inj (congrArg Prod.fst h)
        exact ⟨Nat.zero_le _, rfl⟩

@[simp] theorem toList_setTimeout (p : PollSet) (timeout : Int) :
    (p.setTimeout timeout).toList = p.toList := rfl

/-! ## Registering -/

/-- What a registration does: in place for a known descriptor, at the end for a
    new one. -/
theorem add_cases {interest : EventMask} (hp : p.WellFormed) (h : p.add fd interest = .ok p') :
    p'.WellFormed ∧ p'.capacity = p.capacity ∧
      ((∃ i, p.position? fd = some i ∧ p'.registered = p.registered
          ∧ p'.toList = p.toList.set i ⟨fd, interest, .empty⟩)
        ∨ (fd ∉ p.descriptors ∧ p'.registered = p.registered + 1
          ∧ p'.toList = p.toList ++ [⟨fd, interest, .empty⟩])) := by
  rw [add] at h
  -- a known descriptor keeps its slot, and a new one takes the first that is free
  cases hpos : p.position? fd with
  | some i =>
      simp only [hpos] at h
      obtain rfl := Except.ok.inj h
      have hcap : capacity { p with slots := p.slots.setIfInBounds i ⟨fd, interest, .empty⟩ }
          = p.capacity := Array.size_setIfInBounds
      refine ⟨?_, hcap, .inl ⟨i, rfl, rfl, ?_⟩⟩
      · show p.registered ≤ _
        rw [hcap]
        exact hp
      · show (p.slots.setIfInBounds i _).toList.take p.registered = _
        rw [Array.toList_setIfInBounds, List.take_set]
        rfl
  | none =>
      simp only [hpos] at h
      by_cases hfull : p.registered = p.capacity
      · rw [if_pos hfull] at h
        cases h
      · rw [if_neg hfull] at h
        obtain rfl := Except.ok.inj h
        have hroom : p.registered < p.slots.toList.length := by
          have hp' : p.registered ≤ p.slots.size := hp
          have hfull' : p.registered ≠ p.slots.size := hfull
          rw [Array.length_toList]
          omega
        refine ⟨?_, Array.size_setIfInBounds, .inr ⟨position?_eq_none_iff.mp hpos, rfl, ?_⟩⟩
        · show p.registered + 1 ≤ (p.slots.setIfInBounds _ _).size
          rw [Array.size_setIfInBounds]
          exact hroom
        · show (p.slots.setIfInBounds p.registered _).toList.take (p.registered + 1) = p.toList ++ _
          rw [Array.toList_setIfInBounds, List.take_add_one, List.take_set_of_le (Nat.le_refl _),
            List.getElem?_set_self hroom]
          rfl

/-- A registration keeps the descriptors, or adds the new one behind them. -/
theorem descriptors_add {interest : EventMask} (hp : p.WellFormed)
    (h : p.add fd interest = .ok p') :
    p'.descriptors = if fd ∈ p.descriptors then p.descriptors else p.descriptors ++ [fd] := by
  obtain ⟨_, _, ⟨i, hpos, _, hlist⟩ | ⟨hnew, _, hlist⟩⟩ := add_cases hp h
  · obtain ⟨hi, hfd⟩ := fd_at_position hpos
    have hmem : fd ∈ p.descriptors := hfd ▸ List.mem_map_of_mem (List.getElem_mem hi)
    have hself := List.set_getElem_self (show i < (p.toList.map PollEntry.fd).length by
      rw [List.length_map]
      exact hi)
    rw [List.getElem_map, hfd] at hself
    rw [if_pos hmem, descriptors, hlist, List.map_set, descriptors]
    exact hself
  · rw [if_neg hnew, descriptors, hlist, List.map_append]
    rfl

/-- A registration keeps the entries of all other descriptors. -/
theorem mem_toList_add {interest : EventMask} {e : PollEntry} (hp : p.WellFormed)
    (h : p.add fd interest = .ok p') (he : e ∈ p.toList) (hne : e.fd ≠ fd) : e ∈ p'.toList := by
  obtain ⟨_, _, ⟨i, hpos, _, hlist⟩ | ⟨_, _, hlist⟩⟩ := add_cases hp h
  · obtain ⟨hi, hfd⟩ := fd_at_position hpos
    obtain ⟨j, hj, rfl⟩ := List.getElem_of_mem he
    have hij : i ≠ j := by
      rintro rfl
      exact hne hfd
    rw [hlist]
    exact List.mem_of_getElem? ((List.getElem?_set_ne hij).trans (List.getElem?_eq_getElem hj))
  · rw [hlist]
    exact List.mem_append_left _ he

/-- A known descriptor can always be registered again, and is then asked about anew. -/
theorem add_of_mem (interest : EventMask) (hp : p.WellFormed) (hmem : fd ∈ p.descriptors) :
    ∃ p', p.add fd interest = .ok p' ∧ ⟨fd, interest, .empty⟩ ∈ p'.toList := by
  cases hpos : p.position? fd with
  | none => exact absurd hmem (position?_eq_none_iff.mp hpos)
  | some i =>
      have hadd : p.add fd interest
          = .ok { p with slots := p.slots.setIfInBounds i ⟨fd, interest, .empty⟩ } := by
        rw [add, hpos]
      obtain ⟨_, _, ⟨j, hpos', _, hlist⟩ | ⟨hnew, _, _⟩⟩ := add_cases hp hadd
      · obtain ⟨hj, _⟩ := fd_at_position hpos'
        refine ⟨_, hadd, ?_⟩
        rw [hlist]
        exact List.mem_iff_getElem.mpr ⟨j, by rw [List.length_set]; exact hj,
          List.getElem_set_self _⟩
      · exact absurd hmem hnew

/-- Only a new descriptor is ever refused, and only by a full set. -/
theorem add_error {interest : EventMask} {e : Error} (h : p.add fd interest = .error e) :
    fd ∉ p.descriptors ∧ p.registered = p.capacity ∧ e = .capacityExceeded p.capacity := by
  rw [add] at h
  cases hpos : p.position? fd with
  | some i =>
      rw [hpos] at h
      cases h
  | none =>
      rw [hpos] at h
      by_cases hfull : p.registered = p.capacity
      · simp only [if_pos hfull] at h
        exact ⟨position?_eq_none_iff.mp hpos, hfull, (Except.error.inj h).symm⟩
      · simp only [if_neg hfull] at h
        cases h

/-- A full set refuses a new descriptor, with its capacity. -/
theorem add_of_full (interest : EventMask) (hnew : fd ∉ p.descriptors)
    (hfull : p.registered = p.capacity) :
    p.add fd interest = .error (.capacityExceeded p.capacity) := by
  rw [add, position?_eq_none_iff.mpr hnew]
  exact if_pos hfull

/-- A registration of another descriptor keeps the first entry. -/
theorem head?_add {interest : EventMask} {e : PollEntry} (hp : p.WellFormed)
    (h : p.add fd interest = .ok p') (he : p.toList.head? = some e) (hne : e.fd ≠ fd) :
    p'.toList.head? = some e := by
  obtain ⟨rest, hcons⟩ := List.head?_eq_some_iff.mp he
  obtain ⟨_, _, ⟨i, hpos, _, hlist⟩ | ⟨_, _, hlist⟩⟩ := add_cases hp h
  · obtain ⟨hi, hfd⟩ := fd_at_position hpos
    cases i with
    | zero =>
        -- the entry in place is the first one, which has another descriptor
        simp only [hcons, List.getElem_cons_zero] at hfd
        exact absurd hfd hne
    | succ i =>
        rw [hlist, hcons]
        rfl
  · rw [hlist, hcons]
    rfl

/-! ## Removing -/

/-- Removing takes the first entry of the descriptor out. -/
theorem toList_remove (hp : p.WellFormed) (fd : Descriptor) :
    (p.remove fd).2.toList = p.toList.eraseP (·.fd == fd) := by
  rw [List.eraseP_eq_eraseIdx, remove,
    show p.toList.findIdx? (·.fd == fd) = p.position? fd from rfl]
  cases hpos : p.position? fd with
  | none => rfl
  | some i =>
      obtain ⟨hi, _⟩ := fd_at_position hpos
      rw [length_toList hp] at hi
      have hsize : p.registered ≤ p.slots.toList.length := by
        rw [Array.length_toList]
        exact hp
      have hfront : (p.slots.toList.take i
          ++ (p.slots.toList.drop (i + 1)).take (p.registered - (i + 1))).length
            = p.registered - 1 := by
        rw [List.length_append, List.length_take, List.length_take, List.length_drop]
        omega
      -- behind the entries that remain stand the freed slot and the unused ones
      show ((p.slots.extract 0 i ++ p.slots.extract (i + 1) p.registered ++ #[PollEntry.unused]
        ++ p.slots.extract p.registered p.slots.size).toList).take (p.registered - 1)
          = (p.slots.toList.take p.registered).eraseIdx i
      rw [Array.toList_append, Array.toList_append, Array.toList_append, Array.toList_extract,
        Array.toList_extract, List.extract_eq_take_drop, List.extract_eq_take_drop, Nat.sub_zero,
        List.drop_zero, List.append_assoc, List.take_left' hfront, List.eraseIdx_eq_take_drop_succ,
        List.take_take, List.drop_take, Nat.min_eq_left (by omega)]

/-- A removal makes room and never takes more than there is. -/
theorem remove_wellFormed (hp : p.WellFormed) (fd : Descriptor) : (p.remove fd).2.WellFormed := by
  rw [remove]
  cases hpos : p.position? fd with
  | none => exact hp
  | some i =>
      obtain ⟨hi, _⟩ := fd_at_position hpos
      rw [length_toList hp] at hi
      have hsize : p.registered ≤ p.slots.size := hp
      show p.registered - 1 ≤ (p.slots.extract 0 i ++ p.slots.extract (i + 1) p.registered
        ++ #[PollEntry.unused] ++ p.slots.extract p.registered p.slots.size).size
      rw [Array.size_append, Array.size_append, Array.size_append, Array.size_extract,
        Array.size_extract]
      omega

theorem capacity_remove (hp : p.WellFormed) (fd : Descriptor) :
    (p.remove fd).2.capacity = p.capacity := by
  rw [remove]
  cases hpos : p.position? fd with
  | none => rfl
  | some i =>
      obtain ⟨hi, _⟩ := fd_at_position hpos
      rw [length_toList hp] at hi
      have hsize : p.registered ≤ p.slots.size := hp
      show (p.slots.extract 0 i ++ p.slots.extract (i + 1) p.registered ++ #[PollEntry.unused]
        ++ p.slots.extract p.registered p.slots.size).size = p.slots.size
      rw [Array.size_append, Array.size_append, Array.size_append, Array.size_extract,
        Array.size_extract, Array.size_extract]
      show min i p.slots.size - 0 + (min p.registered p.slots.size - (i + 1)) + 1
        + (min p.slots.size p.slots.size - p.registered) = p.slots.size
      omega

/-- A removal takes one descriptor out and moves the others up. -/
theorem descriptors_remove (hp : p.WellFormed) (fd : Descriptor) :
    (p.remove fd).2.descriptors = p.descriptors.erase fd := by
  rw [descriptors, toList_remove hp, descriptors]
  -- on the entries, of which the first match goes
  induction p.toList with
  | nil => rfl
  | cons e rest ih =>
      by_cases hfd : e.fd = fd
      · subst hfd
        simp
      · simp [hfd, ih]

/-- The entries of the others stay as they are. -/
theorem mem_toList_remove {e : PollEntry} (hp : p.WellFormed) (he : e ∈ p.toList)
    (hne : e.fd ≠ fd) :
    e ∈ (p.remove fd).2.toList := by
  rw [toList_remove hp]
  exact (List.mem_eraseP_of_neg (by simpa using hne)).mpr he

/-- The first entry stays first when another one goes. -/
theorem head?_remove {e : PollEntry} (hp : p.WellFormed) (he : p.toList.head? = some e)
    (hne : e.fd ≠ fd) : (p.remove fd).2.toList.head? = some e := by
  obtain ⟨rest, hcons⟩ := List.head?_eq_some_iff.mp he
  rw [toList_remove hp, hcons, List.eraseP_cons_of_neg (by simpa using hne)]
  rfl

/-! ## Clearing and waiting -/

/-- An emptied set is in order. -/
theorem clear_wellFormed (p : PollSet) : p.clear.WellFormed := Nat.zero_le _

theorem capacity_clear (hp : p.WellFormed) : p.clear.capacity = p.capacity := by
  have hsize : p.registered ≤ p.slots.size := hp
  show (Array.replicate p.registered PollEntry.unused ++ p.slots.extract p.registered
    p.slots.size).size
    = p.slots.size
  rw [Array.size_append, Array.size_replicate, Array.size_extract]
  omega

@[simp] theorem capacity_record (p : PollSet) (results : Array EventMask) :
    (p.record results).capacity = p.capacity := Array.size_mapIdx

/-- Results take no slot. -/
theorem record_wellFormed (hp : p.WellFormed) (results : Array EventMask) :
    (p.record results).WellFormed := by
  show p.registered ≤ (p.slots.mapIdx _).size
  rw [Array.size_mapIdx]
  exact hp

/-- A wait gives each entry its result. -/
theorem getElem?_toList_record (p : PollSet) (results : Array EventMask) (i : Nat) :
    (p.record results).toList[i]?
      = p.toList[i]?.map fun e => { e with result := (results[i]?).getD .empty } := by
  show ((p.slots.mapIdx _).toList.take p.registered)[i]?
    = (p.slots.toList.take p.registered)[i]?.map _
  rw [Array.toList_mapIdx, List.getElem?_take, List.getElem?_take]
  by_cases hi : i < p.registered
  · rw [if_pos hi, if_pos hi, List.getElem?_mapIdx]
    simp only [if_pos hi]
  · rw [if_neg hi, if_neg hi]
    rfl

/-- A wait changes nothing but results. -/
theorem toList_record_map {α : Type} (p : PollSet) (results : Array EventMask) (f : PollEntry → α)
    (hf : ∀ (e : PollEntry) (r : EventMask), f { e with result := r } = f e) :
    (p.record results).toList.map f = p.toList.map f := by
  refine List.ext_getElem? ?_
  intro i
  rw [List.getElem?_map, List.getElem?_map, getElem?_toList_record, Option.map_map]
  cases p.toList[i]? with
  | none => rfl
  | some e => exact congrArg some (hf e _)

/-- After a wait the set holds the same questions in the same order. -/
theorem waitTimeout_cases {timeout : Int} {h h' : Host} {r : Except Error Nat}
    (hwait : p.waitTimeout timeout h = (r, p', h')) :
    (p' = p ∨ ∃ results, p' = p.record results) ∧ h'.kernel = h.kernel := by
  rw [waitTimeout] at hwait
  cases hpoll : h.kernel.poll p.questions timeout with
  | ok results =>
      simp only [hpoll, Prod.mk.injEq] at hwait
      obtain ⟨-, rfl, rfl⟩ := hwait
      exact ⟨.inr ⟨_, rfl⟩, rfl⟩
  | error e =>
      simp only [hpoll] at hwait
      by_cases hsignal : e = .interrupted
      · rw [if_pos hsignal, Prod.mk.injEq, Prod.mk.injEq] at hwait
        obtain ⟨-, rfl, rfl⟩ := hwait
        exact ⟨.inr ⟨_, rfl⟩, rfl⟩
      · rw [if_neg hsignal, Prod.mk.injEq, Prod.mk.injEq] at hwait
        obtain ⟨-, rfl, rfl⟩ := hwait
        exact ⟨.inl rfl, rfl⟩

/-- A wait notes results in the set or leaves it as it is, and the kernel keeps its state. -/
theorem wait_cases {h h' : Host} {r : Except Error Nat} (hwait : p.wait h = (r, p', h')) :
    (p' = p ∨ ∃ results, p' = p.record results) ∧ h'.kernel = h.kernel := waitTimeout_cases hwait

/-- The results of a wait for all entries. -/
def results (p : PollSet) (k : Kernel) : List EventMask :=
  p.questions.map fun q => k.readiness q.1 q.2

/-- The entries with what the system says of each. -/
def answered (p : PollSet) (k : Kernel) : List PollEntry :=
  p.toList.map fun e => { e with result := k.readiness e.fd e.interest }

/-- Recording the results of a wait gives every entry what the system says of it. -/
theorem toList_record_results (p : PollSet) (k : Kernel) :
    (p.record (p.results k).toArray).toList = p.answered k := by
  refine List.ext_getElem? ?_
  intro i
  rw [getElem?_toList_record, List.getElem?_toArray, results, questions, answered,
    List.getElem?_map, List.getElem?_map, List.getElem?_map]
  cases p.toList[i]? with
  | none => rfl
  | some e => rfl

/-- Where no result has a flag, the system has nothing to say about any entry. -/
theorem readiness_of_empty {k : Kernel} (hempty : (p.results k).all EventMask.isEmpty = true)
    {e : PollEntry} (he : e ∈ p.toList) : k.readiness e.fd e.interest = .empty := by
  have hresult : (k.readiness e.fd e.interest).isEmpty = true := by
    refine List.all_eq_true.mp hempty _ ?_
    rw [results, questions, List.map_map]
    exact List.mem_map_of_mem he
  exact congrArg EventMask.mk (eq_of_beq hresult)

/-- Where the system has nothing to say of any entry, the answer is that of a wait in which
    a signal arrived. -/
theorem toList_clearResults {k : Kernel} (hempty : (p.results k).all EventMask.isEmpty = true) :
    p.clearResults.toList = p.answered k := by
  refine List.ext_getElem? ?_
  intro i
  rw [clearResults, getElem?_toList_record, answered, List.getElem?_map]
  cases hentry : p.toList[i]? with
  | none => rfl
  | some e =>
      show some { e with result := EventMask.empty }
        = some { e with result := k.readiness e.fd e.interest }
      rw [readiness_of_empty hempty (List.mem_of_getElem? hentry)]

end PollSet

/-- A wait is refused over the number of entries, ended by a signal when there is nothing to
    tell, or answers. -/
theorem Kernel.poll_cases (k : Kernel) (entries : List (Descriptor × EventMask)) (timeout : Int) :
    (k.descriptorLimit.any (· < entries.length) = true
      ∧ k.poll entries timeout = .error .invalidArgument)
      ∨ (k.descriptorLimit.any (· < entries.length) = false
        ∧ ((k.poll entries timeout = .error .interrupted
            ∧ (entries.map fun q => k.readiness q.1 q.2).all EventMask.isEmpty = true)
          ∨ k.poll entries timeout = .ok (entries.map fun q => k.readiness q.1 q.2))) := by
  rw [poll]
  dsimp only
  by_cases hlimit : k.descriptorLimit.any (· < entries.length) = true
  · rw [if_pos hlimit]
    exact .inl ⟨hlimit, rfl⟩
  · rw [if_neg hlimit]
    refine .inr ⟨Bool.not_eq_true _ ▸ hlimit, ?_⟩
    by_cases hsignal : k.interrupted ∧ timeout ≠ 0
        ∧ (entries.map fun q => k.readiness q.1 q.2).all EventMask.isEmpty = true
    · rw [if_pos hsignal]
      exact .inl ⟨rfl, hsignal.2.2⟩
    · rw [if_neg hsignal]
      exact .inr rfl

namespace PollSet

variable {p p' : PollSet} {h h' : Host}

/-- A wait that is not refused answers for each entry what the system says of it, and how
    many have something. -/
theorem waitTimeout_answers (p : PollSet) (timeout : Int) (h : Host) :
    (h.kernel.descriptorLimit.any (· < p.toList.length) = true
        ∧ p.waitTimeout timeout h = (.error (.os "poll" .invalidArgument), p, h))
      ∨ (h.kernel.descriptorLimit.any (· < p.toList.length) = false
        ∧ ∃ p' h', p.waitTimeout timeout h
          = (.ok (p'.toList.filter fun e => !e.result.isEmpty).length, p', h')
          ∧ p'.toList = p.answered h.kernel) := by
  have hlength : p.questions.length = p.toList.length := List.length_map _
  rw [waitTimeout, ← hlength]
  obtain ⟨hlimit, hpoll⟩ | ⟨hlimit, ⟨hpoll, hempty⟩ | hpoll⟩ :=
    h.kernel.poll_cases p.questions timeout
  · rw [hpoll]
    exact .inl ⟨hlimit, rfl⟩
  · rw [hpoll]
    have hlist : p.clearResults.toList = p.answered h.kernel := toList_clearResults hempty
    refine .inr ⟨hlimit, p.clearResults, h.log .trace "poll interrupted by signal", ?_, hlist⟩
    -- an interruption comes only where nothing is ready, so zero is the right count
    have hnone : (p.clearResults.toList.filter fun e => !e.result.isEmpty) = [] := by
      rw [List.filter_eq_nil_iff, hlist, answered]
      intro e he
      obtain ⟨old, hold, rfl⟩ := List.mem_map.mp he
      show ¬ (!(h.kernel.readiness old.fd old.interest).isEmpty) = true
      rw [readiness_of_empty hempty hold]
      decide
    rw [hnone]
    rfl
  · rw [hpoll]
    refine .inr ⟨hlimit, _, h, ?_, toList_record_results p h.kernel⟩
    have hcount : (p.results h.kernel).filter (fun r => !r.isEmpty)
        = ((p.answered h.kernel).filter fun e => !e.result.isEmpty).map PollEntry.result := by
      rw [results, questions, answered, List.filter_map, List.filter_map, List.filter_map,
        List.map_map, List.map_map]
      rfl
    show (Except.ok ((p.results h.kernel).filter fun r => !r.isEmpty).length, _, h) = _
    rw [hcount, List.length_map, ← toList_record_results p h.kernel]
    rfl

/-- A wait is refused, for more entries than the system takes, or answers for every entry. -/
theorem wait_answers (p : PollSet) (h : Host) :
    (h.kernel.descriptorLimit.any (· < p.toList.length) = true
        ∧ p.wait h = (.error (.os "poll" .invalidArgument), p, h))
      ∨ (h.kernel.descriptorLimit.any (· < p.toList.length) = false
        ∧ ∃ p' h', p.wait h = (.ok (p'.toList.filter fun e => !e.result.isEmpty).length, p', h')
          ∧ p'.toList = p.answered h.kernel) := p.waitTimeout_answers p.timeout h

/-- The answer of a wait is the number of entries that it has something to say about. -/
theorem waitTimeout_answered {timeout : Int} {n : Nat}
    (hwait : p.waitTimeout timeout h = (.ok n, p', h')) :
    p'.toList = p.answered h.kernel ∧ n = (p'.toList.filter fun e => !e.result.isEmpty).length := by
  obtain ⟨_, hrefused⟩ | ⟨_, p₁, h₁, hanswer, hlist⟩ := p.waitTimeout_answers timeout h
  · cases hrefused.symm.trans hwait
  · cases hanswer.symm.trans hwait
    exact ⟨hlist, rfl⟩

theorem wait_answered {n : Nat} (hwait : p.wait h = (.ok n, p', h')) :
    p'.toList = p.answered h.kernel ∧ n = (p'.toList.filter fun e => !e.result.isEmpty).length :=
  waitTimeout_answered hwait

/-- Each entry has what the system said of it. -/
theorem wait_result {n : Nat} (hwait : p.wait h = (.ok n, p', h')) {e : PollEntry}
    (he : e ∈ p'.toList) :
    e.result = h.kernel.readiness e.fd e.interest := by
  rw [(wait_answered hwait).1, answered] at he
  obtain ⟨old, _, rfl⟩ := List.mem_map.mp he
  rfl

end PollSet

end EventLoop
