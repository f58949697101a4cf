import EventLoop.Proofs.PollSet.View

/-! # What a readiness set asks and is told about a descriptor

    The interest of a descriptor is what the set asks the system about it (`interest?`),
    and its result what the last wait reported (`reported?`).

    * Registering a descriptor sets its interest (`interest?_add_self`); all other
      operations, and all those on other descriptors, leave it alone.
    * A wait reports for each descriptor what the system says to the interest
      (`reported?_of_wait`). -/

namespace EventLoop

namespace EventMask

variable {m flag other interest condition : EventMask}

/-- A mask with a flag is not empty. -/
theorem nonempty_of_intersects (h : m.intersects flag = true) : m.isEmpty = false := by
  rw [← Bool.not_eq_true]
  intro hempty
  have hzero : m.mask = 0#16 := beq_iff_eq.mp hempty
  rw [intersects, hzero, BitVec.zero_and] at h
  cases h

/-- A mask that has a flag is not empty. -/
theorem nonempty_of_contains (hflag : flag.mask ≠ 0) (h : m.contains flag = true) :
    m.isEmpty = false := by
  have hall : m.mask &&& flag.mask = flag.mask := beq_iff_eq.mp h
  have hsome : m.intersects flag = true := by
    rw [intersects, hall]
    exact bne_iff_ne.mpr hflag
  exact nonempty_of_intersects hsome

/-- A mask contains a flag bit by bit. -/
theorem contains_iff :
    m.contains flag = true ↔ ∀ j, flag.mask.getLsbD j = true → m.mask.getLsbD j = true := by
  rw [contains, beq_iff_eq]
  constructor
  · intro h j hj
    rw [← h, BitVec.getLsbD_and, Bool.and_eq_true] at hj
    exact hj.1
  · intro h
    refine BitVec.eq_of_getLsbD_eq fun j _ => ?_
    rw [BitVec.getLsbD_and]
    cases hj : flag.mask.getLsbD j with
    | true => rw [h j hj]; rfl
    | false => exact Bool.and_false _

/-- Masks that share a bit intersect. -/
theorem intersects_iff : m.intersects flag = true ↔ ∃ j, m.mask.getLsbD j = true
    ∧ flag.mask.getLsbD j = true := by
  rw [intersects, bne_iff_ne]
  show m.mask &&& flag.mask ≠ 0#16 ↔ _
  constructor
  · intro h
    by_contra hnone
    refine h (BitVec.eq_of_getLsbD_eq fun j _ => ?_)
    rw [BitVec.getLsbD_and, BitVec.getLsbD_zero, ← Bool.not_eq_true, Bool.and_eq_true]
    exact fun hj => hnone ⟨j, hj⟩
  · rintro ⟨j, hm, hflag⟩ hzero
    have hj := congrArg (fun v : BitVec 16 => v.getLsbD j) hzero
    simp only [BitVec.getLsbD_and, hm, hflag, BitVec.getLsbD_zero] at hj
    cases hj

/-- Whoever has a flag meets whatever the flag meets. -/
theorem intersects_of_contains (h : m.contains flag = true) (hsome : flag.intersects other = true) :
    m.intersects other = true := by
  obtain ⟨j, hflag, hother⟩ := intersects_iff.mp hsome
  exact intersects_iff.mpr ⟨j, contains_iff.mp h j hflag, hother⟩

/-- Flags that are reported always are reported for every interest. -/
theorem reported_contains (hcondition : condition.contains flag = true)
    (halways : (error ||| hangup ||| invalid).contains flag = true) :
    (reported interest condition).contains flag = true := by
  rw [contains_iff] at hcondition halways ⊢
  intro j hj
  have hasked : ((error.mask ||| hangup.mask) ||| invalid.mask).getLsbD j = true := halways j hj
  show (condition.mask
    &&& (((interest.mask ||| error.mask) ||| hangup.mask) ||| invalid.mask)).getLsbD j = true
  rw [BitVec.getLsbD_and, BitVec.or_assoc, BitVec.or_assoc, ← BitVec.or_assoc error.mask,
    BitVec.getLsbD_or, hcondition j hj, hasked]
  exact Bool.or_true _

/-- All others are reported only where they are asked for. -/
theorem intersects_of_reported (hnever : (error ||| hangup ||| invalid).intersects flag = false)
    (h : (reported interest condition).intersects flag = true) :
    interest.intersects flag = true := by
  rw [intersects_iff] at h ⊢
  obtain ⟨j, hreported, hflag⟩ := h
  have hasked :
      (condition.mask &&& (((interest.mask ||| error.mask) ||| hangup.mask)
        ||| invalid.mask)).getLsbD j
      = true := hreported
  rw [BitVec.getLsbD_and, BitVec.or_assoc, BitVec.or_assoc, ← BitVec.or_assoc error.mask,
    BitVec.getLsbD_or, Bool.and_eq_true, Bool.or_eq_true] at hasked
  refine ⟨j, hasked.2.resolve_right fun halways => ?_, hflag⟩
  cases hnever.symm.trans (intersects_iff.mpr ⟨j, halways, hflag⟩)

end EventMask

namespace PollSet

variable {p p' : PollSet} {fd other : Descriptor} {interest : EventMask}

/-- What the set asks about a descriptor. -/
def interest? (p : PollSet) (fd : Descriptor) : Option EventMask := p.questions.lookup fd

/-- What the last wait reported of a descriptor. -/
def reported? (p : PollSet) (fd : Descriptor) : Option EventMask :=
  (p.toList.map fun e => (e.fd, e.result)).lookup fd

/-- The set asks only about descriptors that it has an entry for. -/
theorem mem_descriptors_of_interest (h : p.interest? fd = some interest) : fd ∈ p.descriptors := by
  obtain ⟨front, back, heq, _⟩ := List.lookup_eq_some_iff.mp h
  have hmem : (fd, interest) ∈ p.questions := by
    rw [heq]
    exact List.mem_append_right _ List.mem_cons_self
  obtain ⟨e, he, hpair⟩ := List.mem_map.mp hmem
  obtain ⟨rfl, _⟩ := Prod.mk.inj hpair
  exact List.mem_map_of_mem he

/-! ## Registering and removing -/

/-- Writing over the first entry of a key sets its value and no other. -/
theorem lookup_set_first {entries : List (Descriptor × EventMask)} {i : Nat}
    (hfirst : entries.findIdx? (·.1 == fd) = some i) (v : EventMask) :
    (entries.set i (fd, v)).lookup other = if other = fd then some v else entries.lookup other := by
  -- on the entries up to the first one of the descriptor
  induction entries generalizing i with
  | nil => cases hfirst
  | cons entry rest ih =>
      obtain ⟨key, old⟩ := entry
      rw [List.findIdx?_cons] at hfirst
      by_cases hkey : key = fd
      · rw [if_pos (beq_iff_eq.mpr hkey)] at hfirst
        obtain rfl := Option.some.inj hfirst
        rw [List.set_cons_zero, List.lookup_cons, List.lookup_cons, hkey]
        by_cases hother : other = fd
        · rw [if_pos hother, beq_iff_eq.mpr hother]
        · rw [if_neg hother, beq_eq_false_iff_ne.mpr hother]
      · rw [if_neg fun heq => hkey (beq_iff_eq.mp heq)] at hfirst
        obtain ⟨j, hj, rfl⟩ := Option.map_eq_some_iff.mp hfirst
        rw [List.set_cons_succ, List.lookup_cons, List.lookup_cons, ih hj]
        by_cases hother : other = key
        · have hne : other ≠ fd := fun heq => hkey (hother.symm.trans heq)
          rw [beq_iff_eq.mpr hother]
          exact (if_neg hne).symm
        · rw [beq_eq_false_iff_ne.mpr hother]

/-- A registration decides what is asked of its own descriptor and of no other. -/
theorem interest?_add (hp : p.WellFormed) (h : p.add fd interest = .ok p') (other : Descriptor) :
    p'.interest? other = if other = fd then some interest else p.interest? other := by
  obtain ⟨_, _, ⟨i, hpos, _, hlist⟩ | ⟨hnew, _, hlist⟩⟩ := add_cases hp h
  · have hfirst : p.questions.findIdx? (·.1 == fd) = some i := by
      rw [questions, List.findIdx?_map]
      exact hpos
    rw [interest?, questions, hlist, List.map_set]
    exact lookup_set_first hfirst interest
  · rw [interest?, questions, hlist, List.map_append, List.lookup_append]
    show (p.interest? other).or ([(fd, interest)].lookup other) = _
    rw [List.lookup_cons]
    by_cases hother : other = fd
    · subst hother
      have hnone : p.interest? other = none := by
        cases hfound : p.interest? other with
        | none => rfl
        | some old => exact absurd (mem_descriptors_of_interest hfound) hnew
      rw [if_pos rfl, hnone, beq_self_eq_true]
      rfl
    · rw [if_neg hother, beq_eq_false_iff_ne.mpr hother]
      exact Option.or_none

theorem interest?_add_self (hp : p.WellFormed) (h : p.add fd interest = .ok p') :
    p'.interest? fd = some interest := by
  rw [interest?_add hp h, if_pos rfl]

theorem interest?_add_of_ne (hp : p.WellFormed) (h : p.add fd interest = .ok p')
    (hne : other ≠ fd) :
    p'.interest? other = p.interest? other := by
  rw [interest?_add hp h, if_neg hne]

/-- A removal forgets one descriptor only. -/
theorem interest?_remove_of_ne (hp : p.WellFormed) (hne : other ≠ fd) :
    (p.remove fd).2.interest? other = p.interest? other := by
  rw [interest?, questions, toList_remove hp, interest?, questions]
  -- on the entries, of which the first match goes
  induction p.toList with
  | nil => rfl
  | cons e rest ih =>
      by_cases hfd : e.fd = fd
      · have hfirst : (e.fd == fd) = true := beq_iff_eq.mpr hfd
        rw [List.eraseP_cons, hfirst, cond_true, List.map_cons, List.lookup_cons, hfd,
          beq_eq_false_iff_ne.mpr hne]
      · have hother : (e.fd == fd) = false := beq_eq_false_iff_ne.mpr hfd
        rw [List.eraseP_cons, hother, cond_false, List.map_cons, List.map_cons,
          List.lookup_cons, List.lookup_cons, ih]

/-- After a change of one interest. -/
structure Asks (p : PollSet) (fd : Descriptor) (interest : EventMask) (p' : PollSet) : Prop where
  wellFormed : p'.WellFormed
  self : p'.interest? fd = some interest
  others : ∀ other, other ≠ fd → p'.interest? other = p.interest? other

/-- A registration that succeeds asks for what it says. -/
theorem asks_of_add (hp : p.WellFormed) (h : p.add fd interest = .ok p') :
    p.Asks fd interest p' where
  wellFormed := (add_cases hp h).1
  self := interest?_add_self hp h
  others := fun _ hne => interest?_add_of_ne hp h hne

theorem asks_refl (hp : p.WellFormed) (h : p.interest? fd = some interest) : p.Asks fd interest p :=
  ⟨hp, h, fun _ _ => rfl⟩

/-! ## Waiting -/

/-- Results are noted beside the questions and do not touch them. -/
theorem interest?_record (p : PollSet) (results : Array EventMask) (fd : Descriptor) :
    (p.record results).interest? fd = p.interest? fd := by
  have hsame : (p.record results).questions = p.questions :=
    toList_record_map p results (fun e => (e.fd, e.interest)) fun _ _ => rfl
  rw [interest?, hsame, interest?]

/-- What a wait reports is what the system says to the interest. -/
theorem reported?_of_wait {h h' : Host} {n : Nat} (hwait : p.wait h = (.ok n, p', h'))
    (fd : Descriptor) :
    p'.reported? fd = (p.interest? fd).map (h.kernel.readiness fd) := by
  rw [reported?, (wait_answered hwait).1, answered, interest?, questions]
  -- on the entries, which answer in the order in which they ask
  induction p.toList with
  | nil => rfl
  | cons e rest ih =>
      rw [List.map_cons, List.map_cons, List.map_cons, List.lookup_cons, List.lookup_cons]
      by_cases hfd : fd = e.fd
      · subst hfd
        rw [beq_self_eq_true]
        rfl
      · rw [beq_eq_false_iff_ne.mpr hfd]
        exact ih

/-- What is reported of a descriptor stands in one of the entries. -/
theorem exists_of_reported {result : EventMask} (h : p.reported? fd = some result) :
    ∃ e ∈ p.toList, e.fd = fd ∧ e.result = result := by
  obtain ⟨front, back, heq, _⟩ := List.lookup_eq_some_iff.mp h
  have hmem : (fd, result) ∈ p.toList.map fun e => (e.fd, e.result) := by
    rw [heq]
    exact List.mem_append_right _ List.mem_cons_self
  obtain ⟨e, he, hpair⟩ := List.mem_map.mp hmem
  exact ⟨e, he, Prod.mk.inj hpair⟩

/-- With distinct descriptors an entry is the one of its descriptor. -/
theorem reported?_of_mem (hdistinct : p.descriptors.Nodup) {e : PollEntry} (he : e ∈ p.toList) :
    p.reported? e.fd = some e.result := by
  rw [descriptors] at hdistinct
  rw [reported?]
  revert hdistinct he
  -- on the entries; among distinct descriptors the first one found is the one
  induction p.toList with
  | nil => exact fun _ he => by cases he
  | cons first rest ih =>
      intro hdistinct he
      rw [List.map_cons, List.nodup_cons] at hdistinct
      rw [List.map_cons, List.lookup_cons]
      rcases List.mem_cons.mp he with rfl | hrest
      · rw [beq_self_eq_true]
      · have hne : e.fd ≠ first.fd := fun heq => hdistinct.1 (heq ▸ List.mem_map_of_mem hrest)
        rw [beq_eq_false_iff_ne.mpr hne]
        exact ih hdistinct.2 hrest

/-- The entries with a result are the first, if it has one, and those behind it. -/
theorem length_ready (p : PollSet) : (p.toList.filter fun e => !e.result.isEmpty).length
    = ((p.toList.drop 1).filter fun e => !e.result.isEmpty).length + if (p.result 0).isEmpty then 0
    else 1 := by
  rw [result, entry?]
  cases p.toList with
  | nil => rfl
  | cons first rest =>
      show ((first :: rest).filter _).length = (rest.filter _).length
        + if first.result.isEmpty then 0 else 1
      cases hfirst : first.result.isEmpty with
      | true => rw [List.filter_cons_of_neg (by rw [hfirst]; decide)]; rfl
      | false => rw [List.filter_cons_of_pos (by rw [hfirst]; rfl)]; rfl

theorem result_zero {e : PollEntry} (hfirst : p.toList.head? = some e) : p.result 0 = e.result := by
  rw [result, entry?, ← List.head?_eq_getElem?, hfirst]
  rfl

end PollSet

end EventLoop
