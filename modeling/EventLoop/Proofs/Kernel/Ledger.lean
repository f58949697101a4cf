import EventLoop.Kernel.Stream

/-! # What happens on a stream

    The two sides of a stream write different parts of its ledger. This process moves
    on in what arrived and adds to what was handed over (`Stream.Served`); the peer adds
    to what arrived, collects, and ends the stream (`Stream.Acts`). Neither undoes what
    the other did, and as long as the peer is not gone nothing is at fault
    (`Stream.Sound`). -/

namespace EventLoop

namespace Stream

variable {s s' s'' : Stream}

/-- The accounts of a stream over the network add up. -/
structure Sound (s : Stream) : Prop where
  tcp : s.family = .tcp
  taken_le : s.taken ≤ s.arrived.length
  collected_le : s.collected ≤ s.handed.length
  intact : s.peerEnd ≠ .gone → s.fault = .intact

/-- A new stream satisfies every rule: nothing arrived and nothing was handed over. -/
theorem fresh_sound (peer : Address) : (fresh .tcp peer).Sound :=
  ⟨rfl, Nat.le_refl _, Nat.le_refl _, fun _ => rfl⟩

/-- What was taken and what is unread make up what arrived, in order. -/
theorem take_taken_append_unread (s : Stream) : s.arrived.take s.taken ++ s.unread = s.arrived :=
  List.take_append_drop _ _

/-- Nothing is unread exactly when as much was taken as arrived. -/
theorem unread_eq_nil_iff : s.unread = [] ↔ s.arrived.length ≤ s.taken := List.drop_eq_nil_iff

/-! ## Waiting -/

/-- That the peer hung up is told only of a stream at fault. -/
theorem fault_of_closed (s : Stream) (hclosed : s.condition.isClosed = true) :
    s.fault ≠ .intact := by
  intro hintact
  rw [condition, hintact] at hclosed
  dsimp only at hclosed
  split at hclosed <;> split at hclosed <;> exact absurd hclosed (by decide)

/-! ## This process -/

/-- What a receive into some room comes to. -/
inductive Delivers (s : Stream) : Except Errno Arrival → Stream → Prop
  | bytes {data rest : Bytes} (hne : data ≠ []) (hunread : s.unread = data ++ rest) :
      Delivers s (.ok (.bytes data)) { s with taken := s.taken + data.length }
  | wouldBlock (hunread : s.unread = []) (hfault : s.fault = .intact)
      (hpeer : s.peerEnd = .sending) :
      Delivers s (.ok .wouldBlock) s
  | closed (hunread : s.unread = []) (hpeer : s.fault = .intact → s.peerEnd ≠ .sending) :
      Delivers s (.ok .closed) s
  | failed (hunread : s.unread = []) (hfault : s.fault = .pending .connectionReset) :
      Delivers s (.error .connectionReset) { s with fault := .spent }

/-- A receive with room for a byte is one of the four deliveries. -/
theorem receive_delivers (s : Stream) {room : Nat} (hroom : 0 < room) :
    s.Delivers (s.receive room).1 (s.receive room).2 := by
  have hsome : room ≠ 0 := by omega
  rw [receive, if_neg hsome]
  by_cases hunread : s.unread = []
  · rw [if_neg (not_not_intro hunread)]
    cases hfault : s.fault with
    | intact =>
        by_cases hpeer : s.peerEnd = .sending
        · simp only [if_pos hpeer]
          exact .wouldBlock hunread hfault hpeer
        · simp only [if_neg hpeer]
          exact .closed hunread fun _ => hpeer
    | pending errno =>
        -- of the errors a receive reports the reset only
        by_cases hreset : errno = .connectionReset
        · subst hreset
          exact .failed hunread hfault
        · simp only [if_neg hreset]
          exact .closed hunread fun hintact => by rw [hfault] at hintact; cases hintact
    | spent => exact .closed hunread fun hintact => by rw [hfault] at hintact; cases hintact
  · rw [if_pos hunread, ← List.length_take]
    refine .bytes ?_ (List.take_append_drop room s.unread).symm
    rw [Ne, List.take_eq_nil_iff]
    exact fun h => h.elim hsome hunread

/-- No more is taken than there is. -/
theorem admits_le (s : Stream) (count : Nat) : s.admits count ≤ count := Nat.min_le_left _ _

/-- While the window is open, something is taken of anything. -/
theorem admits_pos (hstalled : s.stalled = false) {count : Nat} (hcount : 0 < count) :
    0 < s.admits count := by
  cases hwindow : s.window with
  | none => simpa [admits, hwindow] using hcount
  | some room =>
      have hroom : room ≠ 0 := by simpa [stalled, hwindow] using hstalled
      simp only [admits, hwindow, Option.getD_some]
      omega

/-- What a send comes to on a stream over the network. -/
inductive Accepts (s : Stream) (data : Bytes) : Except Errno Nat → Stream → Prop
  | taken (hfault : s.fault = .intact) (hstalled : s.stalled = false) :
      Accepts s data (.ok (s.admits data.length))
        { s with
          handed := s.handed ++ data.take (s.admits data.length)
          window := s.window.map (· - s.admits data.length)
          fault := if s.peerEnd = .gone ∧ data ≠ [] then .pending .brokenPipe else s.fault }
  | stalled (hfault : s.fault = .intact) (hstalled : s.stalled = true) :
      Accepts s data (.error .again) s
  | failed {errno : Errno} (hfault : s.fault = .pending errno) :
      Accepts s data (.error errno) { s with fault := .spent }
  | broken (hfault : s.fault = .spent) : Accepts s data (.error .brokenPipe) s

/-- A send on a connection over TCP is one of the ways in which a stream accepts data. -/
theorem send_accepts (htcp : s.family = .tcp) (data : Bytes) :
    s.Accepts data (s.send data).1 (s.send data).2 := by
  obtain ⟨family, peer, arrived, taken, handed, collected, peerEnd, fault, window, ownEnd⟩ := s
  obtain rfl : family = .tcp := htcp
  cases fault with
  | intact =>
      have hpair : ¬ (Family.tcp = .pair ∧ peerEnd = .gone) := fun h => by cases h.1
      simp only [send, if_neg hpair]
      split
      · next hstalled => exact .stalled rfl hstalled
      · next hstalled => exact .taken rfl (Bool.eq_false_iff.mpr hstalled)
  | pending errno => exact .failed rfl
  | spent => exact .broken rfl

/-- A send takes no more than it is given. -/
theorem send_le {data : Bytes} {n : Nat} (hok : (s.send data).1 = .ok n) : n ≤ data.length := by
  rw [send] at hok
  split at hok
  · cases hok
  · cases hok
  · split at hok
    · cases hok
    · split at hok
      · cases hok
      · cases hok
        exact s.admits_le _

/-- A receive takes no more than there is room for. -/
theorem receive_le {room : Nat} {data : Bytes} (hok : (s.receive room).1 = .ok (.bytes data)) :
    data.length ≤ room := by
  by_cases hunread : s.unread = []
  · -- nothing is taken, whatever is answered
    have hnil : data = [] := by
      simp only [receive, hunread, ne_eq, not_true_eq_false, if_false] at hok
      split at hok
      · split at hok
        · cases hok
        · split at hok <;> cases hok
          rfl
      · split at hok <;> cases hok
        rfl
      · split at hok
        · cases hok
        · split at hok <;> cases hok
          rfl
    rw [hnil]
    exact Nat.zero_le _
  · simp only [receive, ne_eq, hunread, not_false_eq_true, if_true] at hok
    cases hok
    exact List.length_take_le _ _

/-- This process took more of what arrived and handed more over. -/
structure Served (s s' : Stream) : Prop where
  family : s'.family = s.family
  arrived : s'.arrived = s.arrived
  collected : s'.collected = s.collected
  peerEnd : s'.peerEnd = s.peerEnd
  ownEnd : s'.ownEnd = s.ownEnd
  taken : s.taken ≤ s.arrived.length → s.taken ≤ s'.taken ∧ s'.taken ≤ s.arrived.length
  handed : s.handed <+: s'.handed
  faulty : s.fault ≠ .intact → s'.fault ≠ .intact
  blameless : s.peerEnd ≠ .gone → s.fault = .intact → s'.fault = .intact

namespace Served

theorem refl (s : Stream) : Served s s :=
  ⟨rfl, rfl, rfl, rfl, rfl, fun h => ⟨Nat.le_refl _, h⟩, List.prefix_refl _,
    fun h => h, fun _ h => h⟩

theorem trans (h : Served s s') (h' : Served s' s'') : Served s s'' where
  family := h'.family.trans h.family
  arrived := h'.arrived.trans h.arrived
  collected := h'.collected.trans h.collected
  peerEnd := h'.peerEnd.trans h.peerEnd
  ownEnd := h'.ownEnd.trans h.ownEnd
  taken := by
    intro hle
    obtain ⟨hmid, hle'⟩ := h.taken hle
    obtain ⟨hlast, hle''⟩ := h'.taken (by rw [h.arrived]; exact hle')
    exact ⟨Nat.le_trans hmid hlast, h.arrived ▸ hle''⟩
  handed := h.handed.trans h'.handed
  faulty := fun hfault => h'.faulty (h.faulty hfault)
  blameless := by
    intro hpeer hfault
    exact h'.blameless (by rw [h.peerEnd]; exact hpeer) (h.blameless hpeer hfault)

/-- A stream that is served keeps its rules. -/
theorem sound (h : Served s s') (hs : s.Sound) : s'.Sound where
  tcp := h.family.trans hs.tcp
  taken_le := by
    rw [h.arrived]
    exact (h.taken hs.taken_le).2
  collected_le := by
    rw [h.collected]
    exact Nat.le_trans hs.collected_le h.handed.length_le
  intact := by
    intro hpeer
    rw [h.peerEnd] at hpeer
    exact h.blameless hpeer (hs.intact hpeer)

end Served

/-- A receive is a service. -/
theorem Delivers.served {r : Except Errno Arrival} (h : s.Delivers r s') : Served s s' := by
  cases h with
  | @bytes data rest hne hunread =>
      refine ⟨rfl, rfl, rfl, rfl, rfl, ?_, List.prefix_refl _, fun h => h, fun _ h => h⟩
      intro hle
      have hlength := congrArg List.length hunread
      rw [unread, List.length_drop, List.length_append] at hlength
      show s.taken ≤ s.taken + data.length ∧ s.taken + data.length ≤ _
      omega
  | wouldBlock _ _ _ => exact .refl s
  | closed _ _ => exact .refl s
  | failed _ hfault =>
      refine ⟨rfl, rfl, rfl, rfl, rfl, fun h => ⟨Nat.le_refl _, h⟩, List.prefix_refl _, ?_, ?_⟩
      · exact fun _ h => by cases h
      · exact fun _ h => by rw [hfault] at h; cases h

/-- A send is a service. -/
theorem Accepts.served {data : Bytes} {r : Except Errno Nat} (h : s.Accepts data r s') :
    Served s s' := by
  cases h with
  | taken hfault _ =>
      refine ⟨rfl, rfl, rfl, rfl, rfl, fun h => ⟨Nat.le_refl _, h⟩, List.prefix_append _ _, ?_, ?_⟩
      · exact fun h => absurd hfault h
      · exact fun hpeer _ => by rw [if_neg (fun h => hpeer h.1)]; exact hfault
  | stalled _ _ => exact .refl s
  | failed hfault =>
      refine ⟨rfl, rfl, rfl, rfl, rfl, fun h => ⟨Nat.le_refl _, h⟩, List.prefix_refl _, ?_, ?_⟩
      · exact fun _ h => by cases h
      · exact fun _ h => by rw [hfault] at h; cases h
  | broken _ => exact .refl s

/-! ## The peer -/

/-- Something the peer does. It sends only until it said that it is done, and by reading or
    not reading it opens the window as far as it likes, or shuts it. -/
inductive Acts : Stream → Stream → Prop
  | send (s : Stream) (data : Bytes) (hsending : s.peerEnd = .sending) : Acts s (s.peerSend data)
  | receive (s : Stream) : Acts s s.peerReceive.2.2
  | shutdown (s : Stream) : Acts s s.peerShutdown
  | close (s : Stream) : Acts s s.peerClose
  | reset (s : Stream) : Acts s s.peerReset
  | window (s : Stream) (window : Option Nat) : Acts s (s.setWindow window)

namespace Acts

theorem family (h : Acts s s') : s'.family = s.family := by
  cases h <;> rfl

theorem taken (h : Acts s s') : s'.taken = s.taken := by
  cases h <;> rfl

theorem handed (h : Acts s s') : s'.handed = s.handed := by
  cases h <;> rfl

theorem ownEnd (h : Acts s s') : s'.ownEnd = s.ownEnd := by
  cases h <;> rfl

/-- Clients add to what arrived and take nothing back. -/
theorem arrived (h : Acts s s') : s.arrived <+: s'.arrived := by
  cases h with
  | send data _ => exact List.prefix_append _ _
  | _ => exact List.prefix_refl _

/-- A client that has ended its stream sends no more. -/
theorem arrived_of_done (h : Acts s s') (hdone : s.peerEnd ≠ .sending) :
    s'.arrived = s.arrived := by
  cases h with
  | send data hsending => exact absurd hsending hdone
  | _ => rfl

/-- A client collects no more than was handed over to it. -/
theorem collected (h : Acts s s') (hle : s.collected ≤ s.handed.length) :
    s'.collected ≤ s'.handed.length := by
  cases h with
  | receive => exact Nat.le_refl _
  | _ => exact hle

theorem gone (h : Acts s s') (hgone : s.peerEnd = .gone) : s'.peerEnd = .gone := by
  cases h with
  | send _ _ => exact hgone
  | receive => exact hgone
  | shutdown =>
      show (if s.peerEnd = .sending then .finished else s.peerEnd) = .gone
      rw [hgone]
      rfl
  | close => rfl
  | reset => rfl
  | window _ => exact hgone

theorem done (h : Acts s s') (hdone : s.peerEnd ≠ .sending) : s'.peerEnd ≠ .sending := by
  cases h with
  | send _ _ => exact hdone
  | receive => exact hdone
  | shutdown =>
      show (if s.peerEnd = .sending then .finished else s.peerEnd) ≠ .sending
      rw [if_neg hdone]
      exact hdone
  | close => exact fun h => by cases h
  | reset => exact fun h => by cases h
  | window _ => exact hdone

/-- A stream that broke off is not mended. -/
theorem faulty (h : Acts s s') (hfault : s.fault ≠ .intact) : s'.fault ≠ .intact := by
  cases h with
  | close =>
      show (if s.family = .pair ∧ s.isOwing then Fault.pending .connectionReset else s.fault)
        ≠ .intact
      split
      · exact fun h => by cases h
      · exact hfault
  | reset => exact fun h => by cases h
  | _ => exact hfault

/-- Whatever a client does, the stream keeps its rules. -/
theorem sound (h : Acts s s') (hs : s.Sound) : s'.Sound where
  tcp := h.family.trans hs.tcp
  taken_le := by
    rw [h.taken]
    exact Nat.le_trans hs.taken_le h.arrived.length_le
  collected_le := h.collected hs.collected_le
  intact := by
    intro hpeer
    -- without an end of the stream the fault stays as it is
    have hbefore : s.peerEnd ≠ .gone := fun hgone => hpeer (h.gone hgone)
    cases h with
    | close => exact absurd rfl hpeer
    | reset => exact absurd rfl hpeer
    | _ => exact hs.intact hbefore

end Acts

end Stream

end EventLoop
