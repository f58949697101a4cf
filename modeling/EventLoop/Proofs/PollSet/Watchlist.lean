import EventLoop.Proofs.PollSet.View

/-! # Readiness sets refine ordered lists

    A watchlist is a list of entries, one for each descriptor, and a number of entries that
    there may be; it knows nothing of slots and of moving them. This file states what each
    operation does to a watchlist (`Watchlist.Step`), runs operations on readiness sets
    (`performAll`), and ties the two together:

    * `perform_refines`: one operation on a packed set is a step of its watchlist, with the
      same answer;
    * `refines_watchlist`: so is every sequence of operations on a new set, and whatever is
      asked of the set is answered from the list.

    A set is packed when its entries have distinct descriptors and the slots behind them are
    unused (`Packed`). With distinct descriptors a watchlist falls in one way only into what
    stands before an entry, the entry, and what stands behind it, so that a step says which
    entry it is about and that all others stay where they are. -/

namespace EventLoop

/-- Entries in order, and how many there may be. -/
structure Watchlist where
  entries : List PollEntry
  capacity : Nat
  deriving DecidableEq, Repr

namespace PollSet

/-- An operation on a readiness set; a wait comes with the host that it meets. -/
inductive Operation where
  | add (fd : Descriptor) (interest : EventMask)
  | remove (fd : Descriptor)
  | clear
  | wait (timeout : Int) (host : Host)

/-- What an operation answers. -/
inductive Answer where
  | added (outcome : Except Error Unit)
  | removed (found : Bool)
  | cleared
  | waited (ready : Except Error Nat)

end PollSet

/-! ## Watchlists -/

namespace Watchlist

/-- The descriptors that have an entry. -/
def descriptors (w : Watchlist) : List Descriptor := w.entries.map PollEntry.fd

/-- What the entries ask of the system. -/
def questions (w : Watchlist) : List (Descriptor × EventMask) :=
  w.entries.map fun e => (e.fd, e.interest)

/-- What an operation does to a watchlist and what it answers. -/
inductive Step : Watchlist → PollSet.Operation → PollSet.Answer → Watchlist → Prop where
  /-- A known descriptor gets a new interest and loses its result; its entry stays in place, and
      it does not matter whether there is room. -/
  | renewed {front back : List PollEntry} {fd : Descriptor} {old interest result : EventMask}
      {capacity : Nat} :
      Step ⟨front ++ ⟨fd, old, result⟩ :: back, capacity⟩ (.add fd interest) (.added (.ok ()))
        ⟨front ++ ⟨fd, interest, .empty⟩ :: back, capacity⟩
  /-- A new descriptor goes behind all others, without a result. -/
  | appended {w : Watchlist} {fd : Descriptor} {interest : EventMask} (hnew : fd ∉ w.descriptors)
      (hroom : w.entries.length < w.capacity) :
      Step w (.add fd interest) (.added (.ok ())) ⟨w.entries ++ [⟨fd, interest, .empty⟩],
        w.capacity⟩
  /-- Without room it is refused, and nothing changes. -/
  | refused {w : Watchlist} {fd : Descriptor} {interest : EventMask} (hnew : fd ∉ w.descriptors)
      (hfull : w.entries.length = w.capacity) :
      Step w (.add fd interest) (.added (.error (.capacityExceeded w.capacity))) w
  /-- The entry of a known descriptor is dropped, and no other. -/
  | removed {front back : List PollEntry} {e : PollEntry} {capacity : Nat} :
      Step ⟨front ++ e :: back, capacity⟩ (.remove e.fd) (.removed true) ⟨front ++ back, capacity⟩
  | absent {w : Watchlist} {fd : Descriptor} (hnew : fd ∉ w.descriptors) :
      Step w (.remove fd) (.removed false) w
  | cleared {w : Watchlist} : Step w .clear .cleared ⟨[], w.capacity⟩
  /-- A wait changes results only: to what the system says of each entry. -/
  | answered {w : Watchlist} {timeout : Int} {host : Host} {results : List EventMask}
      (hpoll : host.kernel.poll w.questions timeout = .ok results) :
      Step w (.wait timeout host) (.waited (.ok (results.filter fun r => !r.isEmpty).length))
        ⟨w.entries.map fun e => { e with result := host.kernel.readiness e.fd e.interest },
          w.capacity⟩
  /-- After a signal there are no results. -/
  | interrupted {w : Watchlist} {timeout : Int} {host : Host}
      (hpoll : host.kernel.poll w.questions timeout = .error .interrupted) :
      Step w (.wait timeout host) (.waited (.ok 0))
        ⟨w.entries.map fun e => { e with result := .empty }, w.capacity⟩
  | failed {w : Watchlist} {timeout : Int} {host : Host} {e : Errno}
      (hpoll : host.kernel.poll w.questions timeout = .error e) (hother : e ≠ .interrupted) :
      Step w (.wait timeout host) (.waited (.error (.os "poll" e))) w

/-- A sequence of operations, with its answers. -/
inductive Run : Watchlist → List PollSet.Operation → List PollSet.Answer → Watchlist → Prop where
  | nil {w : Watchlist} : Run w [] [] w
  | cons {w w' w'' : Watchlist} {op : PollSet.Operation} {ops : List PollSet.Operation}
      {a : PollSet.Answer}
      {as : List PollSet.Answer} (hstep : Step w op a w') (hrest : Run w' ops as w'') :
      Run w (op :: ops) (a :: as) w''

/-- No operation changes how many entries there may be. -/
theorem Step.capacity {w w' : Watchlist} {op : PollSet.Operation} {a : PollSet.Answer}
    (h : Step w op a w') :
    w'.capacity = w.capacity := by
  cases h <;> rfl

/-- The number of entries that there may be never changes. -/
theorem Run.capacity {w w' : Watchlist} {ops : List PollSet.Operation} {as : List PollSet.Answer}
    (h : Run w ops as w') : w'.capacity = w.capacity := by
  induction h with
  | nil => rfl
  | cons hstep _ ih => exact ih.trans hstep.capacity

end Watchlist

/-! ## Readiness sets -/

namespace PollSet

/-- Do an operation. A registration that fails leaves the set as it is. -/
def perform (p : PollSet) : Operation → Answer × PollSet
  | .add fd interest =>
    match p.add fd interest with
    | .ok p' => (.added (.ok ()), p')
    | .error e => (.added (.error e), p)
  | .remove fd => (.removed (p.remove fd).1, (p.remove fd).2)
  | .clear => (.cleared, p.clear)
  | .wait timeout host => (.waited (p.waitTimeout timeout host).1, (p.waitTimeout timeout host).2.1)

/-- Do operations in order. -/
def performAll (p : PollSet) : List Operation → List Answer × PollSet
  | [] => ([], p)
  | op :: ops => ((p.perform op).1 :: ((p.perform op).2.performAll ops).1,
        ((p.perform op).2.performAll ops).2)

/-- The watchlist that a set stands for. -/
def watchlist (p : PollSet) : Watchlist := ⟨p.toList, p.capacity⟩

/-- The slots behind the entries. -/
def spare (p : PollSet) : List PollEntry := p.slots.toList.drop p.registered

/-- The entries have distinct descriptors, and behind them is nothing but unused slots. -/
structure Packed (p : PollSet) : Prop where
  wellFormed : p.WellFormed
  distinct : p.descriptors.Nodup
  unused : p.spare = List.replicate (p.capacity - p.registered) .unused

variable {p p' : PollSet} {fd : Descriptor} {interest : EventMask}

/-- A new set is packed, and stands for the empty list. -/
theorem create_packed {capacity : Nat} {memory : Allocator} (hpos : 0 < capacity)
    (hmemory : (memory.request (slotBytes * capacity)).1 = true) :
    ∃ p, (create capacity memory).1 = .ok p ∧ p.Packed ∧ p.watchlist = ⟨[], capacity⟩ := by
  have hsize : (Array.replicate capacity PollEntry.unused).size = capacity := Array.size_replicate
  refine ⟨⟨Array.replicate capacity .unused, 0, blockIndefinitely⟩, ?_,
    ⟨Nat.zero_le _, List.nodup_nil, ?_⟩, ?_⟩
  · rw [create, if_neg (Nat.ne_of_gt hpos)]
    rcases hrequest : memory.request (slotBytes * capacity) with ⟨granted, rest⟩
    rw [hrequest] at hmemory
    obtain rfl : granted = true := hmemory
    rfl
  · show (Array.replicate capacity PollEntry.unused).toList.drop 0 = List.replicate
      (Array.size _ - 0) _
    rw [List.drop_zero, Array.toList_replicate, hsize, Nat.sub_zero]
  · show Watchlist.mk [] (Array.size _) = _
    rw [hsize]

/-- The slots past the entries, read as an array or as a list. -/
theorem toList_spare (p : PollSet) :
    (p.slots.extract p.registered p.slots.size).toList = p.spare := by
  have hlength : (p.slots.toList.drop p.registered).length = p.slots.size - p.registered := by
    rw [List.length_drop, Array.length_toList]
  rw [Array.toList_extract, List.extract_eq_take_drop, ← hlength, List.take_length]
  rfl

/-! ### Registering -/

/-- The slot of a descriptor that is registered again is one of those in use. -/
theorem add_known (hp : p.WellFormed) {i : Nat} (hpos : p.position? fd = some i)
    (h : p.add fd interest = .ok p') :
    p'.registered = p.registered ∧ p'.spare = p.spare ∧ p'.timeout = p.timeout := by
  obtain ⟨hi, _⟩ := fd_at_position hpos
  rw [length_toList hp] at hi
  rw [add, hpos] at h
  obtain rfl := Except.ok.inj h
  refine ⟨rfl, ?_, rfl⟩
  show (p.slots.setIfInBounds i _).toList.drop p.registered = p.spare
  rw [Array.toList_setIfInBounds, List.drop_set_of_lt hi]
  rfl

/-- Behind the entries of a set that has grown by one, all that is left is unused. -/
theorem spare_add (hp : p.Packed) (h : p.add fd interest = .ok p') :
    p'.spare = List.replicate (p'.capacity - p'.registered) .unused := by
  have hspare := hp.unused
  have hroom : p.registered ≤ p.slots.size := hp.wellFormed
  cases hpos : p.position? fd with
  | some i =>
      obtain ⟨hregistered, hsame, _⟩ := add_known hp.wellFormed hpos h
      obtain ⟨_, hcapacity, _⟩ := add_cases hp.wellFormed h
      rw [hsame, hcapacity, hregistered, hspare]
  | none =>
      simp only [add, hpos] at h
      by_cases hfull : p.registered = p.capacity
      · rw [if_pos hfull] at h
        cases h
      · rw [if_neg hfull] at h
        obtain rfl := Except.ok.inj h
        -- it is the first of those that are not
        show (p.slots.setIfInBounds p.registered _).toList.drop (p.registered + 1)
          = List.replicate ((p.slots.setIfInBounds p.registered _).size - (p.registered + 1)) _
        have hnext : p.slots.toList.drop (p.registered + 1) = p.spare.drop 1 := by
          rw [spare, List.drop_drop]
        rw [Array.toList_setIfInBounds, List.drop_set_of_lt (Nat.lt_succ_self _),
          Array.size_setIfInBounds]
        show p.slots.toList.drop (p.registered + 1) = _
        rw [hnext, hspare, List.drop_replicate, Nat.sub_sub]
        rfl

/-- A registration takes the first unused slot, and the rest stays unused. -/
theorem add_packed (hp : p.Packed) (h : p.add fd interest = .ok p') : p'.Packed where
  wellFormed := (add_cases hp.wellFormed h).1
  distinct := by
    rw [descriptors_add hp.wellFormed h]
    by_cases hmem : fd ∈ p.descriptors
    · rw [if_pos hmem]
      exact hp.distinct
    · rw [if_neg hmem]
      exact List.nodup_append.mpr ⟨hp.distinct, List.nodup_singleton fd, fun x hx y hy hxy =>
        hmem (List.mem_singleton.mp hy ▸ hxy ▸ hx)⟩
  unused := spare_add hp h

/-- A registration does to the set what it does to the list, and leaves it packed. -/
theorem add_refines (hp : p.Packed) (fd : Descriptor) (interest : EventMask) :
    Watchlist.Step p.watchlist (.add fd interest) (p.perform (.add fd interest)).1
        (p.perform (.add fd interest)).2.watchlist
      ∧ (p.perform (.add fd interest)).2.Packed := by
  have hlength : p.watchlist.entries.length = p.registered := length_toList hp.wellFormed
  cases hadd : p.add fd interest with
  | error e =>
      simp only [perform, hadd]
      obtain ⟨hnew, hfull, rfl⟩ := add_error hadd
      exact ⟨.refused hnew (hlength.trans hfull), hp⟩
  | ok p' =>
      simp only [perform, hadd]
      refine ⟨?_, add_packed hp hadd⟩
      obtain ⟨_, hcapacity, ⟨i, hpos, _, hlist⟩ | ⟨hnew, hregistered, hlist⟩⟩ :=
        add_cases hp.wellFormed hadd
      -- the entry in its place, between those before and those behind
      · obtain ⟨hi, rfl⟩ := fd_at_position hpos
        have hbefore : p.toList = p.toList.take i ++ p.toList[i] :: p.toList.drop (i + 1) := by
          rw [List.getElem_cons_drop, List.take_append_drop]
        have hafter : p'.toList = p.toList.take i ++ ⟨p.toList[i].fd, interest, .empty⟩
            :: p.toList.drop (i + 1) := by
          rw [hlist, List.set_eq_take_append_cons_drop, if_pos hi]
        have hstep : Watchlist.Step ⟨p.toList.take i ++ p.toList[i] :: p.toList.drop (i + 1),
            p.capacity⟩
            (.add p.toList[i].fd interest) (.added (.ok ()))
            ⟨p.toList.take i ++ ⟨p.toList[i].fd, interest, .empty⟩ :: p.toList.drop (i + 1),
              p.capacity⟩ := .renewed
        rw [watchlist, watchlist, hafter, hcapacity]
        rw [← hbefore] at hstep
        exact hstep
      · have hroom : p'.registered ≤ p'.capacity := (add_cases hp.wellFormed hadd).1
        rw [hregistered, hcapacity] at hroom
        have hafter : p'.watchlist = ⟨p.toList ++ [⟨fd, interest, .empty⟩], p.capacity⟩ := by
          rw [watchlist, hlist, hcapacity]
        rw [hafter]
        exact .appended hnew (hlength ▸ hroom)

/-! ### Removing and clearing -/

/-- The slot that a removal gives back is unused and comes first. -/
theorem spare_remove (hp : p.WellFormed) {i : Nat} (hpos : p.position? fd = some i) :
    (p.remove fd).2.spare = .unused :: p.spare := by
  obtain ⟨hi, _⟩ := fd_at_position hpos
  rw [length_toList hp] at hi
  have hsize : p.registered ≤ p.slots.toList.length := hp
  have hfront :
      (p.slots.toList.take i ++ (p.slots.toList.drop (i + 1)).take (p.registered - (i + 1))).length
      = p.registered - 1 := by
    rw [List.length_append, List.length_take, List.length_take, List.length_drop]
    omega
  rw [remove, hpos]
  -- the freed slot stands behind the entries that remain, and before those that were free already
  show ((p.slots.extract 0 i ++ p.slots.extract (i + 1) p.registered ++ #[PollEntry.unused]
    ++ p.slots.extract p.registered p.slots.size).toList).drop (p.registered - 1) = _
  rw [Array.toList_append, Array.toList_append, Array.toList_append, Array.toList_extract,
    Array.toList_extract, toList_spare, List.extract_eq_take_drop, List.extract_eq_take_drop,
    Nat.sub_zero, List.drop_zero, List.append_assoc, List.drop_left' hfront]
  rfl

/-- A removal moves the entries behind it up and clears the slot that this frees. -/
theorem remove_packed (hp : p.Packed) (fd : Descriptor) : (p.remove fd).2.Packed where
  wellFormed := remove_wellFormed hp.wellFormed fd
  distinct := by
    rw [descriptors_remove hp.wellFormed]
    exact hp.distinct.erase fd
  unused := by
    cases hpos : p.position? fd with
    | none =>
        rw [remove, hpos]
        exact hp.unused
    | some i =>
        obtain ⟨hi, _⟩ := fd_at_position hpos
        rw [length_toList hp.wellFormed] at hi
        have hregistered : (p.remove fd).2.registered = p.registered - 1 := by
          rw [remove, hpos]
        have hroom : p.registered ≤ p.capacity := hp.wellFormed
        rw [spare_remove hp.wellFormed hpos, hp.unused, capacity_remove hp.wellFormed, hregistered,
          ← List.replicate_succ]
        congr 1
        omega

/-- A removal does to the set what it does to the list. -/
theorem remove_refines (hp : p.Packed) (fd : Descriptor) :
    Watchlist.Step p.watchlist (.remove fd) (.removed (p.remove fd).1)
      (p.remove fd).2.watchlist := by
  cases hpos : p.position? fd with
  | none =>
      rw [remove, hpos]
      exact .absent (position?_eq_none_iff.mp hpos)
  | some i =>
      have hfound : (p.remove fd).1 = true := by
        rw [remove, hpos]
      obtain ⟨hi, hfd⟩ := fd_at_position hpos
      obtain ⟨e, front, back, _, he, hbefore, hafter⟩ :=
        List.exists_of_eraseP (p := fun e => e.fd == fd) (List.getElem_mem hi) (beq_iff_eq.mpr hfd)
      obtain rfl : e.fd = fd := beq_iff_eq.mp he
      rw [hfound, watchlist, watchlist, toList_remove hp.wellFormed, hafter, hbefore,
        capacity_remove hp.wellFormed]
      exact .removed

/-- An emptied set has unused slots only. -/
theorem clear_packed (hp : p.Packed) : p.clear.Packed where
  wellFormed := clear_wellFormed p
  distinct := List.nodup_nil
  unused := by
    have hroom : p.registered ≤ p.capacity := hp.wellFormed
    show (Array.replicate p.registered PollEntry.unused ++ p.slots.extract p.registered
      p.slots.size).toList.drop 0
      = List.replicate (p.clear.capacity - 0) _
    rw [capacity_clear hp.wellFormed, List.drop_zero, Array.toList_append, Array.toList_replicate,
      toList_spare, hp.unused, List.replicate_append_replicate]
    congr 1
    omega

/-! ### Waiting -/

/-- No result is written behind the entries. -/
theorem spare_record (p : PollSet) (results : Array EventMask) :
    (p.record results).spare = p.spare := by
  refine List.ext_getElem? fun i => ?_
  show ((p.slots.mapIdx _).toList.drop p.registered)[i]? = (p.slots.toList.drop p.registered)[i]?
  rw [Array.toList_mapIdx, List.getElem?_drop, List.getElem?_drop, List.getElem?_mapIdx]
  have hbehind : ¬ p.registered + i < p.registered := Nat.not_lt.mpr (Nat.le_add_right _ _)
  simp only [if_neg hbehind, Option.map_id']

/-- Results are noted in entries, never behind them. -/
theorem record_packed (hp : p.Packed) (results : Array EventMask) : (p.record results).Packed where
  wellFormed := record_wellFormed hp.wellFormed results
  distinct := by
    rw [descriptors, toList_record_map p results PollEntry.fd fun _ _ => rfl]
    exact hp.distinct
  unused := by
    rw [capacity_record, spare_record]
    exact hp.unused

/-- Stale results are gone from every entry. -/
theorem toList_clearResults_map (p : PollSet) :
    p.clearResults.toList = p.toList.map fun e => { e with result := .empty } := by
  refine List.ext_getElem? fun i => ?_
  rw [clearResults, getElem?_toList_record, List.getElem?_map]
  rfl

/-- A wait does to the set what it does to the list, and leaves it packed. -/
theorem wait_refines (hp : p.Packed) (timeout : Int) (host : Host) :
    Watchlist.Step p.watchlist (.wait timeout host) (.waited (p.waitTimeout timeout host).1)
        (p.waitTimeout timeout host).2.1.watchlist
      ∧ (p.waitTimeout timeout host).2.1.Packed := by
  rw [waitTimeout]
  cases hpoll : host.kernel.poll p.questions timeout with
  | ok results =>
      refine ⟨?_, record_packed hp _⟩
      obtain ⟨_, hrefused⟩ | ⟨_, ⟨hsignal, _⟩ | hanswer⟩ :=
        host.kernel.poll_cases p.questions timeout
      · cases hpoll.symm.trans hrefused
      · cases hpoll.symm.trans hsignal
      -- the results are those that the system has for the questions of the set
      · obtain rfl := Except.ok.inj (hpoll.symm.trans hanswer)
        have hlist := toList_record_results p host.kernel
        rw [results] at hlist
        show Watchlist.Step _ _ _ ⟨(p.record _).toList, (p.record _).capacity⟩
        rw [hlist, capacity_record]
        exact .answered hpoll
  | error e =>
      by_cases hsignal : e = .interrupted
      · subst hsignal
        refine ⟨?_, record_packed hp #[]⟩
        show Watchlist.Step _ _ _ ⟨p.clearResults.toList, p.clearResults.capacity⟩
        rw [toList_clearResults_map, clearResults, capacity_record]
        exact .interrupted hpoll
      · simp only [if_neg hsignal]
        exact ⟨.failed hpoll hsignal, hp⟩

/-! ### Sequences -/

/-- One operation, whichever it is, keeps the set in step with the list. -/
theorem perform_refines (hp : p.Packed) (op : Operation) :
    Watchlist.Step p.watchlist op (p.perform op).1 (p.perform op).2.watchlist
    ∧ (p.perform op).2.Packed := by
  cases op with
  | add fd interest => exact add_refines hp fd interest
  | remove fd => exact ⟨remove_refines hp fd, remove_packed hp fd⟩
  | clear =>
      refine ⟨?_, clear_packed hp⟩
      show Watchlist.Step p.watchlist _ _ ⟨[], p.clear.capacity⟩
      rw [capacity_clear hp.wellFormed]
      exact .cleared
  | wait timeout host => exact wait_refines hp timeout host

/-- A run of operations keeps set and list together. -/
theorem performAll_run (hp : p.Packed) (ops : List Operation) :
    Watchlist.Run p.watchlist ops (p.performAll ops).1 (p.performAll ops).2.watchlist
      ∧ (p.performAll ops).2.Packed := by
  -- on the operations, with one step each that keeps the set packed
  induction ops generalizing p with
  | nil => exact ⟨.nil, hp⟩
  | cons op ops ih =>
      obtain ⟨hstep, hnext⟩ := perform_refines hp op
      obtain ⟨hrest, hlast⟩ := ih hnext
      exact ⟨.cons hstep hrest, hlast⟩

/-! ## What a set shows -/

/-- Everything that can be asked of a set is answered as the list would, no descriptor is on
    the list twice, and the slots that are not in use are empty. -/
structure Shows (p : PollSet) (w : Watchlist) : Prop where
  distinct : w.descriptors.Nodup
  entries : p.toList = w.entries
  registered : p.registered = w.entries.length
  isEmpty : p.isEmpty = true ↔ w.entries = []
  capacity : p.capacity = w.capacity
  unused : ∀ i, p.registered ≤ i → i < p.capacity → p.slots[i]? = some ⟨-1, .empty, .empty⟩
  position : ∀ fd i, p.position? fd = some i ↔ ∃ e, w.entries[i]? = some e ∧ e.fd = fd
  contains : ∀ fd, p.contains fd = true ↔ fd ∈ w.descriptors
  entry : ∀ i, p.entry? i = w.entries[i]?
  result : ∀ i e, w.entries[i]? = some e → p.result i = e.result
    ∧ ∀ flag, p.hasFlag i flag = e.result.contains flag
  beyond : ∀ i, w.entries[i]? = none → p.result i = .empty
    ∧ ∀ flag, p.hasFlag i flag = EventMask.empty.contains flag

/-- Among distinct descriptors a place belongs to exactly one. -/
theorem position?_eq_some_iff (hdistinct : p.descriptors.Nodup) {i : Nat} :
    p.position? fd = some i ↔ ∃ e, p.toList[i]? = some e ∧ e.fd = fd := by
  constructor
  · intro hpos
    obtain ⟨hi, hfd⟩ := fd_at_position hpos
    exact ⟨_, List.getElem?_eq_getElem hi, hfd⟩
  · rintro ⟨e, he, rfl⟩
    obtain ⟨hi, rfl⟩ := List.getElem?_eq_some_iff.mp he
    refine List.findIdx?_eq_some_iff_getElem.mpr ⟨hi, beq_self_eq_true _, fun j hj => ?_⟩
    -- an earlier entry of the same descriptor would be a second one
    have hother : p.toList[j].fd ≠ p.toList[i].fd :=
      List.pairwise_iff_getElem.mp (List.pairwise_map.mp hdistinct) j i (Nat.lt_trans hj hi) hi hj
    simpa using hother

/-- A descriptor is in the set exactly when it has an entry. -/
theorem contains_iff (p : PollSet) (fd : Descriptor) :
    p.contains fd = true ↔ fd ∈ p.descriptors := by
  rw [contains, Option.isSome_iff_ne_none, Ne, position?_eq_none_iff, not_not]

/-- Of a packed set every question is answered from the list that it stands for. -/
theorem Packed.shows (hp : p.Packed) : p.Shows p.watchlist := by
  have hlength := length_toList hp.wellFormed
  refine ⟨hp.distinct, rfl, hlength.symm, ?_, rfl, ?_, ?_, contains_iff p, fun _ => rfl, ?_, ?_⟩
  · rw [isEmpty, beq_iff_eq, ← hlength, List.length_eq_zero_iff]
    exact Iff.rfl
  · intro i hfrom hto
    have hslot : p.spare[i - p.registered]? = some .unused := by
      rw [hp.unused, List.getElem?_replicate_of_lt (by omega)]
    rwa [spare, List.getElem?_drop, Nat.add_sub_cancel' hfrom, Array.getElem?_toList] at hslot
  · exact fun fd i => position?_eq_some_iff hp.distinct
  · intro i e he
    have hresult : p.result i = e.result := by
      rw [result, entry?, show p.toList[i]? = some e from he]
      rfl
    refine ⟨hresult, fun flag => ?_⟩
    rw [hasFlag, hresult]
  · intro i hnone
    have hresult : p.result i = .empty := by
      rw [result, entry?, show p.toList[i]? = none from hnone]
      rfl
    refine ⟨hresult, fun flag => ?_⟩
    rw [hasFlag, hresult]

/-- Whatever is done to a new set of at least one slot, its answers are those of an ordered
    list of entries with distinct descriptors that was empty at first and may have as many
    entries as there are slots, and the set shows that list. -/
theorem refines_watchlist {capacity : Nat} {memory : Allocator} (hpos : 0 < capacity)
    (hmemory : (memory.request (slotBytes * capacity)).1 = true) (ops : List Operation) :
    ∃ start, (create capacity memory).1 = .ok start ∧
      ∃ w, Watchlist.Run ⟨[], capacity⟩ ops (start.performAll ops).1 w ∧ w.capacity = capacity
        ∧ (start.performAll ops).2.Shows w := by
  obtain ⟨start, hcreate, hpacked, hempty⟩ := create_packed hpos hmemory
  obtain ⟨hrun, hlast⟩ := performAll_run hpacked ops
  rw [hempty] at hrun
  exact ⟨start, hcreate, _, hrun, hrun.capacity, hlast.shows⟩

/-- Two slots: a third descriptor is refused, a known one is asked about something else in the
    full set, nothing is open in the wait, and the place of the first is taken by the second. -/
def crowdedOperations : List Operation :=
  [.add 3 .listener, .add 4 .connection, .add 5 .connection, .add 3 .readable,
    .wait 0 (Host.fresh .loopback (.withLevel .off)), .remove 3, .remove 3, .add 5 .writable]

/-- The statement at a run in which the set is full, and what its list is in the end. -/
theorem refines_watchlist_crowded :
    0 < 2 ∧ (Allocator.plentiful.request (slotBytes * 2)).1 = true
      ∧ ∃ start, (create 2 .plentiful).1 = .ok start ∧
        ∃ w, Watchlist.Run ⟨[], 2⟩ crowdedOperations (start.performAll crowdedOperations).1 w
          ∧ w.capacity = 2
          ∧ (start.performAll crowdedOperations).2.Shows w
          ∧ w.entries = [⟨4, .connection, .invalid⟩, ⟨5, .writable, .empty⟩] := by
  obtain ⟨start, hcreate, w, hrun, hcapacity, hshows⟩ :=
    @refines_watchlist 2 .plentiful (by decide) (by decide) crowdedOperations
  have hlast :
      (create 2 .plentiful).1.map (fun start => (start.performAll crowdedOperations).2.toList)
      = .ok [⟨4, .connection, .invalid⟩, ⟨5, .writable, .empty⟩] := by
    decide +kernel
  rw [hcreate] at hlast
  have hentries := Except.ok.inj hlast
  exact ⟨by decide, by decide, start, hcreate, w, hrun, hcapacity, hshows,
    hshows.entries.symm.trans hentries⟩

end PollSet

end EventLoop
