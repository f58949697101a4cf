import EventLoop.Proofs.Kernel.Holders
import EventLoop.Proofs.Kernel.Ledger

/-! # Books that balance

    What was handed over on a stream is a prefix of what was taken from it, so that its
    peer gets nothing but what it sent itself (`Stream.Echoed`). A system keeps this as
    long as this process sends only what it took (`Balanced.serve`), whatever the peers
    do and however files are opened and closed: each change has its lemma below.

    Streams that still wait in a queue are `Idle`. Streams that ended in an orderly way
    are `Settled`: nobody holds them, so that nothing but their peers changes them, and
    their peers send no more. -/

namespace EventLoop

namespace Stream

variable {s s' : Stream} {data : Bytes}

/-- What the peer has collected so far. -/
def received (s : Stream) : Bytes := s.handed.take s.collected

/-- A peer that collects gets what it has not collected yet. -/
theorem received_peerReceive (s : Stream) : s.received ++ s.peerReceive.1 = s.handed :=
  List.take_append_drop _ _

/-- The peer gets nothing but what was taken from it, in order. -/
def Echoed (s : Stream) : Prop := s.handed <+: s.arrived.take s.taken

/-- What was handed over stays a prefix of what was taken, whatever the client does. -/
theorem Echoed.acts (h : s.Echoed) (hsound : s.Sound) (hacts : s.Acts s') : s'.Echoed := by
  obtain ⟨more, hmore⟩ := hacts.arrived
  rw [Echoed, hacts.handed, hacts.taken, ← hmore, List.take_append_of_le_length hsound.taken_le]
  exact h

/-- Nothing is handed over that did not arrive. -/
theorem Echoed.handed_arrived (h : s.Echoed) : s.handed <+: s.arrived :=
  h.trans (List.take_prefix _ _)

/-- This process has done nothing on the stream. -/
structure Idle (s : Stream) : Prop where
  held : s.ownEnd = .held
  taken : s.taken = 0
  handed : s.handed = []

/-- A client may send to an idle stream, and it is idle still: nothing was taken from it
    yet. -/
theorem Idle.acts (h : s.Idle) (hacts : s.Acts s') : s'.Idle :=
  ⟨hacts.ownEnd.trans h.held, hacts.taken.trans h.taken, hacts.handed.trans h.handed⟩

/-- A stream that has just been made is idle. -/
theorem fresh_idle (family : Family) (peer : Address) : (fresh family peer).Idle := ⟨rfl, rfl, rfl⟩

/-- The peer sends no more, everything it sent went back, and this end was closed after
    that. -/
structure Returned (s : Stream) (data : Bytes) : Prop where
  arrived : s.arrived = data
  handed : s.handed = data
  ownEnd : s.ownEnd = .closed
  done : s.peerEnd ≠ .sending

/-- Once all came back, nothing a client does takes it away. -/
theorem Returned.acts (h : s.Returned data) (hacts : s.Acts s') : s'.Returned data where
  arrived := (hacts.arrived_of_done h.done).trans h.arrived
  handed := hacts.handed.trans h.handed
  ownEnd := hacts.ownEnd.trans h.ownEnd
  done := hacts.done h.done

end Stream

namespace Kernel

variable {k k' : Kernel} {fd listener : Descriptor} {i first : Nat} {s s' : Stream}
  {settled : List (Nat × Bytes)}

/-- A stream on which everything went back, and which nobody holds any more. -/
structure Settled (k : Kernel) (i : Nat) (data : Bytes) : Prop where
  stream : ∃ s, k.streams[i]? = some s ∧ s.Returned data
  released : ∀ fd, i ∉ k.references fd

/-- All streams are echoed, those in queues are idle, and those in a list are settled. -/
structure Balanced (settled : List (Nat × Bytes)) (k : Kernel) : Prop where
  tidy : k.Tidy
  echoed : ∀ (i : Nat) (s : Stream), k.streams[i]? = some s → s.Sound ∧ s.Echoed
  waiting : ∀ fd, k.index? fd = none → ∀ i ∈ k.references fd, ∃ s, k.streams[i]? = some s ∧ s.Idle
  settled : ∀ x ∈ settled, k.Settled x.1 x.2

namespace Balanced

variable (h : Balanced settled k)

include h

/-- Files that stand for what they stood for leave the accounts as they are. -/
theorem alike (halike : k.Alike k') : Balanced settled k' where
  tidy := halike.tidy h.tidy
  echoed := by
    rw [halike.streams]
    exact h.echoed
  waiting := by
    intro fd hnone i hmem
    rw [halike.index?_eq] at hnone
    rw [halike.references_eq] at hmem
    rw [halike.streams]
    exact h.waiting fd hnone i hmem
  settled := by
    intro x hx
    obtain ⟨hstream, hreleased⟩ := h.settled x hx
    refine ⟨halike.streams ▸ hstream, fun fd => ?_⟩
    rw [halike.references_eq]
    exact hreleased fd

/-- One stream changes; what is asked of it depends on who holds it. -/
theorem setStream (hstream : k.streams[i]? = some s) (hsound : s'.Sound) (hechoed : s'.Echoed)
    (hidle : ∀ fd, k.index? fd = none → i ∈ k.references fd → s.Idle → s'.Idle)
    (hreturned : (∀ fd, i ∉ k.references fd) → ∀ data, s.Returned data → s'.Returned data) :
    Balanced settled (k.setStream i s') := by
  have hself : (k.setStream i s').streams[i]? = some s' :=
    streams_setStream_self (List.getElem?_eq_some_iff.mp hstream).1
  refine ⟨h.tidy.setStream i s', ?_, ?_, ?_⟩
  · intro j t ht
    by_cases hj : j = i
    · subst hj
      obtain rfl := Option.some.inj (hself.symm.trans ht)
      exact ⟨hsound, hechoed⟩
    · rw [streams_setStream_of_ne s' hj] at ht
      exact h.echoed j t ht
  · intro fd hnone j hmem
    obtain ⟨t, ht, hwaits⟩ := h.waiting fd hnone j hmem
    by_cases hj : j = i
    · subst hj
      obtain rfl := Option.some.inj (hstream.symm.trans ht)
      exact ⟨s', hself, hidle fd hnone hmem hwaits⟩
    · exact ⟨t, (streams_setStream_of_ne s' hj).trans ht, hwaits⟩
  · intro x hx
    obtain ⟨⟨t, ht, hback⟩, hreleased⟩ := h.settled x hx
    refine ⟨?_, hreleased⟩
    by_cases hj : x.1 = i
    · rw [hj] at ht hreleased
      obtain rfl := Option.some.inj (hstream.symm.trans ht)
      exact ⟨s', hj ▸ hself, hreturned hreleased x.2 hback⟩
    · exact ⟨t, (streams_setStream_of_ne s' hj).trans ht, hback⟩

/-- This process does something on a stream that it holds. -/
theorem serve (hindex : k.index? fd = some i) (hstream : k.streams[i]? = some s)
    (hserved : s.Served s') (hechoed : s'.Echoed) : Balanced settled (k.setStream i s') := by
  have hheld : i ∈ k.references fd := mem_references_of_index hindex
  -- a stream that a file holds neither waits in a queue nor is settled
  refine h.setStream hstream (hserved.sound (h.echoed i s hstream).1) hechoed ?_ ?_
  · intro other hnone hmem
    obtain rfl := h.tidy.single fd other i hheld hmem
    cases hindex.symm.trans hnone
  · exact fun hreleased => absurd hheld (hreleased fd)

/-- An act of one client on its own stream keeps every account. -/
theorem acts (hstream : k.streams[i]? = some s) (hacts : s.Acts s') :
    Balanced settled (k.setStream i s') := by
  obtain ⟨hsound, hechoed⟩ := h.echoed i s hstream
  exact h.setStream hstream (hacts.sound hsound) (hechoed.acts hsound hacts)
    (fun _ _ _ hidle => hidle.acts hacts) fun _ _ hback => hback.acts hacts

theorem accept (haccepts : k.Accepts listener fd first k') : Balanced settled k' := by
  refine ⟨haccepts.tidy h.tidy, ?_, ?_, ?_⟩
  · rw [haccepts.streams]
    exact h.echoed
  · intro other hnone i hmem
    have hne : other ≠ fd := by
      rintro rfl
      cases haccepts.index?_fd.symm.trans hnone
    rw [haccepts.index?_of_ne hne] at hnone
    rw [haccepts.streams]
    exact h.waiting other hnone i (haccepts.references_subset hne hmem)
  · intro x hx
    obtain ⟨hstream, hreleased⟩ := h.settled x hx
    refine ⟨haccepts.streams ▸ hstream, fun other hmem => ?_⟩
    by_cases hne : other = fd
    · -- the stream that was accepted stood in a queue
      rw [hne, haccepts.references_fd, List.mem_singleton] at hmem
      refine hreleased listener ?_
      rw [hmem, haccepts.references_listener]
      exact List.mem_cons_self
    · exact hreleased other (haccepts.references_subset hne hmem)

/-- A stream that leaves the queue has not been touched. -/
theorem idle_of_accept (haccepts : k.Accepts listener fd first k') :
    ∃ s, k.streams[first]? = some s ∧ s.Idle := by
  have hmem : first ∈ k.references listener := by
    rw [haccepts.references_listener]
    exact List.mem_cons_self
  exact h.waiting listener haccepts.index?_listener first hmem

/-- Closing ends streams on this side only, which settles none of them differently. -/
theorem close (fd : Descriptor) : Balanced settled (k.close fd) := by
  refine ⟨h.tidy.close fd, ?_, ?_, ?_⟩
  · intro i t ht
    obtain ⟨s, hs, ownEnd, rfl⟩ := released_close k fd ht
    obtain ⟨hsound, hechoed⟩ := h.echoed i s hs
    exact ⟨⟨hsound.tcp, hsound.taken_le, hsound.collected_le, hsound.intact⟩, hechoed⟩
  · intro other hnone i hmem
    rw [h.tidy.references_close] at hmem
    split at hmem
    · cases hmem
    · rename_i hne
      rw [index?_close_of_ne k hne] at hnone
      rw [streams_close_of_not_mem fun hfd => hne (h.tidy.single other fd i hmem hfd)]
      exact h.waiting other hnone i hmem
  · intro x hx
    obtain ⟨hstream, hreleased⟩ := h.settled x hx
    refine ⟨?_, fun other hmem => ?_⟩
    · rw [streams_close_of_not_mem (hreleased fd)]
      exact hstream
    · rw [h.tidy.references_close] at hmem
      split at hmem
      · cases hmem
      · exact hreleased other hmem

/-- A new client brings a new stream, which is idle. -/
theorem connect (hconnects : k.Connects listener k') : Balanced settled k' := by
  obtain ⟨peer, hstreams⟩ := hconnects.streams
  refine ⟨hconnects.tidy h.tidy, ?_, ?_, ?_⟩
  · intro i t ht
    rw [hstreams, List.getElem?_append] at ht
    split at ht
    · exact h.echoed i t ht
    · rw [List.getElem?_singleton] at ht
      split at ht
      · obtain rfl := Option.some.inj ht
        exact ⟨Stream.fresh_sound peer, List.nil_prefix⟩
      · cases ht
  · intro other hnone i hmem
    rw [hconnects.index?_eq] at hnone
    rcases hconnects.mem_references hmem with hold | ⟨_, rfl⟩
    · obtain ⟨s, hs, hidle⟩ := h.waiting other hnone i hold
      exact ⟨s, hconnects.streams_of_some hs, hidle⟩
    · exact ⟨_, by rw [hstreams, List.getElem?_concat_length], Stream.fresh_idle _ peer⟩
  · intro x hx
    obtain ⟨⟨s, hs, hback⟩, hreleased⟩ := h.settled x hx
    refine ⟨⟨s, hconnects.streams_of_some hs, hback⟩, fun other hmem => ?_⟩
    rcases hconnects.mem_references hmem with hold | ⟨_, hnew⟩
    · exact hreleased other hold
    · have hlt := (List.getElem?_eq_some_iff.mp hs).1
      omega

end Balanced

/-- Without streams there is nothing to balance. -/
theorem balanced_of_bare (htidy : k.Tidy) (hstreams : k.streams = [])
    (hbare : ∀ fd, k.references fd = []) :
    Balanced [] k where
  tidy := htidy
  echoed := by
    intro i s hs
    rw [hstreams] at hs
    cases hs
  waiting := by
    intro fd _ i hmem
    rw [hbare] at hmem
    cases hmem
  settled := fun _ hx => by cases hx

/-- Closing the file that holds a stream settles it, if all is done on it. -/
theorem Tidy.settled_close (h : k.Tidy) (hindex : k.index? fd = some i)
    (hstream : k.streams[i]? = some s)
    (hunread : s.unread = []) (hhanded : s.handed = s.arrived) (hdone : s.peerEnd ≠ .sending) :
    (k.close fd).Settled i s.arrived where
  stream := by
    refine ⟨s.close, ?_, rfl, hhanded, ?_, hdone⟩
    · rw [streams_close_of_index hindex, List.getElem?_modify_eq, hstream]
      rfl
    · show (if s.unread = [] then OwnEnd.closed else .aborted) = .closed
      rw [if_pos hunread]
  released := by
    intro other hmem
    rw [h.references_close] at hmem
    split at hmem
    · cases hmem
    · rename_i hne
      exact hne (h.single other fd i hmem (mem_references_of_index hindex))

end Kernel

end EventLoop
