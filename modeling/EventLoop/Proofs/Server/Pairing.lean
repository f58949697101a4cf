import EventLoop.Proofs.Server.Changes

/-! # Set and table go together

    The readiness set of a server holds the listener and behind it the connections
    of the table, in the same order; each connection is kept under the descriptor of
    its own socket; and everything watched is open (`Paired`).

    * That what is watched is open is what makes the invariant inductive: a
      descriptor that the system hands out was not open, so it is not watched and
      gets an entry of its own.
    * `Change.paired` is the step lemma, `Reachable.paired` the run lemma. -/

namespace EventLoop

open Application

variable {L C D : Type} {a b : Application L C D}

/-- Readiness set, table and open descriptors fit together. -/
structure Paired (a : Application L C D) : Prop where
  wellFormed : a.server.polled.WellFormed
  distinct : a.server.polled.descriptors.Nodup
  /-- The listener is watched, and then the connections in the order of the table. -/
  watched : a.server.polled.descriptors
    = (a.server.listener.map Listener.fd).toList ++ a.server.roster.map Seat.key
  first : ∀ l, a.server.listener = some l →
    ∃ result, a.server.polled.toList.head? = some ⟨l.fd, .listener, result⟩
  owned : ∀ x ∈ a.server.roster, x.socket.fd = x.key
  ended : a.server.listener = none → a.server.roster = []
  isOpen : a.server.polled.descriptors ⊆ a.host.openDescriptors

namespace Paired

/-- No two connections share a descriptor. -/
theorem keys_nodup (h : Paired a) : a.server.connections.keys.Nodup := by
  have hdistinct := h.distinct
  rw [h.watched, ← Server.keys_eq_roster] at hdistinct
  exact (List.nodup_append.mp hdistinct).2.1

/-- The descriptors of connections are watched. -/
theorem mem_descriptors (h : Paired a) {x : Seat} (hx : x ∈ a.server.roster) :
    x.key ∈ a.server.polled.descriptors := by
  rw [h.watched]
  exact List.mem_append_right _ (List.mem_map_of_mem hx)

/-- No connection has the descriptor of the listener. -/
theorem key_ne_listener (h : Paired a) {l : Listener} (hl : a.server.listener = some l) {x : Seat}
    (hx : x ∈ a.server.roster) : x.key ≠ l.fd := by
  have hdistinct := h.distinct
  rw [h.watched, hl] at hdistinct
  intro heq
  refine (List.nodup_append.mp hdistinct).2.2 l.fd List.mem_cons_self x.key ?_ heq.symm
  exact List.mem_map_of_mem hx

/-- The set watches the listener as long as there is one. -/
theorem listener_mem_descriptors (h : Paired a) {l : Listener} (hl : a.server.listener = some l) :
    l.fd ∈ a.server.polled.descriptors := by
  rw [h.watched, hl]
  exact List.mem_cons_self

/-! ## Steps -/

/-- A system with the same questions in its set is as well paired. -/
theorem of_quiet (h : Paired a) (hwf : b.server.polled.WellFormed)
    (hdescriptors : b.server.polled.descriptors = a.server.polled.descriptors)
    (hfirst : ∀ fd interest, (∃ r, a.server.polled.toList.head? = some ⟨fd, interest, r⟩) →
      ∃ r, b.server.polled.toList.head? = some ⟨fd, interest, r⟩)
    (hlistener : b.server.listener = a.server.listener)
    (hroster : b.server.roster = a.server.roster)
    (hopen : a.host.openDescriptors ⊆ b.host.openDescriptors) : Paired b where
  wellFormed := hwf
  distinct := by
    rw [hdescriptors]
    exact h.distinct
  watched := by
    rw [hdescriptors, hlistener, hroster]
    exact h.watched
  first := by
    intro l hl
    rw [hlistener] at hl
    exact hfirst l.fd .listener (h.first l hl)
  owned := by
    rw [hroster]
    exact h.owned
  ended := by
    rw [hlistener, hroster]
    exact h.ended
  isOpen := by
    rw [hdescriptors]
    exact fun fd hfd => hopen (h.isOpen hfd)

/-- A connection under a fresh descriptor goes behind the others on both sides. -/
theorem admitted (h : Paired a) {fd : Descriptor}
    (hadd : a.server.polled.add fd .connection = .ok b.server.polled)
    (hlistener : b.server.listener = a.server.listener)
    (hbound : a.server.listener.isSome = true)
    (hroster : b.server.roster = a.server.roster ++ [⟨fd, a.server.nextId, ⟨fd⟩⟩])
    (hfresh : fd ∉ a.host.openDescriptors)
    (hopen : b.host.openDescriptors = fd :: a.host.openDescriptors) : Paired b := by
  have hnew : fd ∉ a.server.polled.descriptors := fun hmem => hfresh (h.isOpen hmem)
  have hdescriptors := PollSet.descriptors_add h.wellFormed hadd
  rw [if_neg hnew] at hdescriptors
  refine ⟨(PollSet.add_cases h.wellFormed hadd).1, ?_, ?_, ?_, ?_, ?_, ?_⟩
  · -- what was not open was not watched, so that the new entry is the only one of its kind
    rw [hdescriptors]
    exact List.nodup_append.mpr ⟨h.distinct, List.nodup_singleton fd, fun x hx y hy hxy =>
      hnew (List.mem_singleton.mp hy ▸ hxy ▸ hx)⟩
  · rw [hdescriptors, h.watched, hlistener, hroster, List.map_append, List.append_assoc]
    rfl
  · intro l hl
    rw [hlistener] at hl
    obtain ⟨result, hfirst⟩ := h.first l hl
    refine ⟨result, PollSet.head?_add h.wellFormed hadd hfirst ?_⟩
    rintro rfl
    exact hnew (h.listener_mem_descriptors hl)
  · intro x hx
    rw [hroster] at hx
    rcases List.mem_append.mp hx with hold | hlast
    · exact h.owned x hold
    · rw [List.mem_singleton.mp hlast]
  · intro hnone
    rw [hlistener] at hnone
    rw [hnone] at hbound
    cases hbound
  · rw [hdescriptors, hopen]
    intro x hx
    rcases List.mem_append.mp hx with hold | hlast
    · exact List.mem_cons_of_mem _ (h.isOpen hold)
    · rw [List.mem_singleton.mp hlast]
      exact List.mem_cons_self

/-- A removal takes the descriptor out on both sides and closes nothing else that
    is watched. -/
theorem removed (h : Paired a) {x : Seat} (hmem : x ∈ a.server.roster)
    (hpolled : b.server.polled = (a.server.polled.remove x.key).2)
    (hlistener : b.server.listener = a.server.listener)
    (hroster : b.server.roster = a.server.roster.filter (·.key ≠ x.key))
    (hopen : b.host.openDescriptors = a.host.openDescriptors.erase x.socket.fd) : Paired b := by
  have hdescriptors : b.server.polled.descriptors = a.server.polled.descriptors.erase x.key := by
    rw [hpolled, PollSet.descriptors_remove h.wellFormed]
  refine ⟨?_, ?_, ?_, ?_, ?_, ?_, ?_⟩
  · rw [hpolled]
    exact PollSet.remove_wellFormed h.wellFormed _
  · rw [hdescriptors]
    exact h.distinct.erase _
  · have hlisten : x.key ∉ (a.server.listener.map Listener.fd).toList := by
      intro hx
      obtain ⟨l, hl, hfd⟩ := Option.map_eq_some_iff.mp (Option.mem_toList.mp hx)
      exact h.key_ne_listener hl hmem hfd.symm
    have hkeys : (a.server.roster.map Seat.key).Nodup := by
      rw [← Server.keys_eq_roster]
      exact h.keys_nodup
    -- the set loses the first entry of the descriptor, the table all of them: the same here
    rw [hdescriptors, h.watched, List.erase_append_right _ hlisten, hkeys.erase_eq_filter,
      hlistener, hroster, List.filter_map]
    congr 2
    refine List.filter_congr ?_
    intro y _
    by_cases hy : y.key = x.key <;> simp [hy]
  · intro l hl
    rw [hlistener] at hl
    obtain ⟨result, hfirst⟩ := h.first l hl
    rw [hpolled]
    exact ⟨result, PollSet.head?_remove h.wellFormed hfirst (h.key_ne_listener hl hmem).symm⟩
  · intro y hy
    rw [hroster] at hy
    exact h.owned y (List.mem_filter.mp hy).1
  · intro hnone
    rw [hlistener] at hnone
    rw [hroster, h.ended hnone]
    rfl
  · -- what is closed is the socket, and the socket has the number that left the set
    rw [hdescriptors, hopen, h.owned x hmem]
    intro y hy
    obtain ⟨hne, hold⟩ := h.distinct.mem_erase_iff.mp hy
    exact (List.mem_erase_of_ne hne).mpr (h.isOpen hold)

/-- Asking for something else about a connection keeps the parts together. -/
theorem retuned (h : Paired a) {fd : Descriptor} {interest : EventMask}
    (hmem : fd ∈ a.server.roster.map Seat.key)
    (hadd : a.server.polled.add fd interest = .ok b.server.polled)
    (hlistener : b.server.listener = a.server.listener)
    (hroster : b.server.roster = a.server.roster)
    (hopen : b.host.openDescriptors = a.host.openDescriptors) : Paired b := by
  obtain ⟨x, hx, rfl⟩ := List.mem_map.mp hmem
  have hdescriptors := PollSet.descriptors_add h.wellFormed hadd
  -- a connection has an entry already, so no descriptor is added
  rw [if_pos (h.mem_descriptors hx)] at hdescriptors
  refine ⟨(PollSet.add_cases h.wellFormed hadd).1, ?_, ?_, ?_, ?_, ?_, ?_⟩
  · rw [hdescriptors]
    exact h.distinct
  · rw [hdescriptors, hlistener, hroster]
    exact h.watched
  · intro l hl
    rw [hlistener] at hl
    obtain ⟨result, hfirst⟩ := h.first l hl
    exact ⟨result, PollSet.head?_add h.wellFormed hadd hfirst (h.key_ne_listener hl hx).symm⟩
  · rw [hroster]
    exact h.owned
  · rw [hlistener, hroster]
    exact h.ended
  · rw [hdescriptors, hopen]
    exact h.isOpen

end Paired

/-- Every step keeps set and table together. -/
theorem Change.paired (h : Paired a) (hchange : Change a b) : Paired b := by
  -- one case for each way in which set, table and files change
  cases hchange with
  | quiet timeout hpolled hlistener hroster _ hopen =>
      refine h.of_quiet ?_ ?_ ?_ hlistener hroster hopen
      · rw [hpolled]
        exact h.wellFormed
      · rw [hpolled]
        rfl
      · rw [hpolled]
        exact fun _ _ hfirst => hfirst
  | admitted fd hbound hadd hlistener hroster _ hfresh hopen =>
      exact h.admitted hadd hlistener hbound hroster hfresh hopen
  | removed x hmem hpolled hlistener hroster _ hopen =>
      exact h.removed hmem hpolled hlistener hroster hopen
  | retuned fd interest hmem hadd hlistener hroster _ hopen =>
      exact h.retuned hmem hadd hlistener hroster hopen
  | closed hpolled hlistener hroster _ =>
      -- nothing is left to fit together
      have hempty : b.server.polled.toList = [] := by
        rw [hpolled]
        rfl
      refine ⟨?_, ?_, ?_, ?_, ?_, fun _ => hroster, ?_⟩
      · rw [hpolled]
        exact PollSet.clear_wellFormed _
      · rw [PollSet.descriptors, hempty]
        exact List.nodup_nil
      · rw [PollSet.descriptors, hempty, hlistener, hroster]
        rfl
      · rw [hlistener]
        exact fun _ hnone => by cases hnone
      · rw [hroster]
        exact fun _ hx => by cases hx
      · rw [PollSet.descriptors, hempty]
        exact List.nil_subset _

/-- A wait asks the same questions before and after. -/
theorem Server.wait_cases {L C : Type} {s s' : Server L C} {h h' : Host} {r : Except Error Nat}
    (hwait : s.wait h = (r, s', h')) :
    ∃ polled, s' = { s with polled := polled }
      ∧ (polled = s.polled ∨ ∃ results, polled = s.polled.record results)
      ∧ h'.kernel = h.kernel := by
  rw [Server.wait] at hwait
  rcases hset : s.polled.wait h with ⟨e | n, polled, h₁⟩
  all_goals
    obtain ⟨hpolled, hkernel⟩ := PollSet.wait_cases hset
    simp only [hset, Prod.mk.injEq] at hwait
    obtain ⟨-, rfl, rfl⟩ := hwait
    exact ⟨polled, rfl, hpolled, hkernel⟩

/-- Whatever happens keeps the parts together. -/
theorem Moment.paired (h : Paired a) (hmoment : Moment a b) : Paired b := by
  cases hmoment with
  | step hstep => exact (hstep.change h.keys_nodup).paired h
  | wait =>
      rw [after_run]
      rcases hwait : a.server.wait a.host with ⟨r, s', h'⟩
      obtain ⟨polled, rfl, hpolled, hkernel⟩ := Server.wait_cases hwait
      have hopen : a.host.openDescriptors ⊆ h'.openDescriptors := by
        rw [Host.openDescriptors, Host.openDescriptors, hkernel]
        exact fun _ hfd => hfd
      obtain rfl | ⟨results, rfl⟩ := hpolled
      · exact h.of_quiet h.wellFormed rfl (fun _ _ hfirst => hfirst) rfl rfl hopen
      · refine h.of_quiet (PollSet.record_wellFormed h.wellFormed results)
          (PollSet.toList_record_map _ results PollEntry.fd fun _ _ => rfl) ?_ rfl rfl hopen
        rintro fd interest ⟨r, hfirst⟩
        rw [List.head?_eq_getElem?] at hfirst
        refine ⟨(results[0]?).getD .empty, ?_⟩
        rw [List.head?_eq_getElem?, PollSet.getElem?_toList_record, hfirst]
        rfl
  | note noted => exact ⟨h.wellFormed, h.distinct, h.watched, h.first, h.owned, h.ended, h.isOpen⟩

/-- In a server that has just been bound they fit: the set watches the listener only. -/
theorem Server.Fresh.paired {s : Server L C} {h : Host} (hfresh : s.Fresh h) (data : D) :
    Paired ⟨s, h, data⟩ := by
  obtain ⟨l, hlistener, hlist, hopen⟩ := hfresh.listener
  have hroster : s.roster = [] := by
    rw [Server.roster, hfresh.connections]
    rfl
  have hdescriptors : s.polled.descriptors = [l.fd] := by
    rw [PollSet.descriptors, hlist]
    rfl
  refine ⟨hfresh.wellFormed, ?_, ?_, ?_, ?_, fun _ => hroster, ?_⟩
  · rw [hdescriptors]
    exact List.nodup_singleton _
  · rw [hdescriptors, hlistener, hroster]
    rfl
  · intro l' hl'
    obtain rfl := Option.some.inj (hlistener.symm.trans hl')
    exact ⟨.empty, by rw [hlist]; rfl⟩
  · rw [hroster]
    exact fun _ hx => by cases hx
  · rw [hdescriptors]
    exact fun fd hfd => List.mem_singleton.mp hfd ▸ hopen

theorem Reachable.paired (h : Reachable a) : Paired a :=
  h.induction (fun _ _ data hfresh => hfresh.paired data) fun _ _ ha hmoment => hmoment.paired ha

end EventLoop
