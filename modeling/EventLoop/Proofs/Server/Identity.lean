import EventLoop.Proofs.Server.Pairing

/-! # Ids tell connections apart

    Descriptors come back, ids do not. Ids grow along the table and all lie below
    the next one (`Identified`); so an id that is given out later is new.

    * `Server.Live`: the connection with an id is in the table.
    * `Since w b`: `b` came from `w`. What is in the table of `b` was
      there in `w`, in the same seat, or has an id that `w` had not given out
      (`Since.origin`). So a connection that is gone never comes back
      (`Since.gone`). -/

namespace EventLoop

open Application

variable {L C D : Type} {a b c w : Application L C D}

/-- Ids grow in the order of acceptance and lie below the next one. -/
structure Identified (a : Application L C D) : Prop where
  increasing : (a.server.roster.map Seat.id).Pairwise (· < ·)
  below : ∀ x ∈ a.server.roster, x.id < a.server.nextId

/-- The connection with the id is in the table. -/
def Server.Live (s : Server L C) (id : Nat) : Prop := ∃ x ∈ s.roster, x.id = id

namespace Identified

/-- An id belongs to one seat. -/
theorem seat_eq (h : Identified a) {x y : Seat} (hx : x ∈ a.server.roster)
    (hy : y ∈ a.server.roster) (hid : x.id = y.id) : x = y := by
  have hnodup : (a.server.roster.map Seat.id).Nodup := h.increasing.imp fun hlt => Nat.ne_of_lt hlt
  exact List.inj_on_of_nodup_map hnodup hx hy hid

/-- Whoever leaves, the ids of the others still grow. -/
theorem of_sublist (h : Identified a) (hroster : b.server.roster.Sublist a.server.roster)
    (hnext : b.server.nextId = a.server.nextId) : Identified b where
  increasing := h.increasing.sublist (hroster.map Seat.id)
  below := by
    intro x hx
    rw [hnext]
    exact h.below x (hroster.subset hx)

end Identified

/-- Every change keeps the order of ids; a new connection gets a larger one. -/
theorem Change.identified (h : Identified a) (hchange : Change a b) : Identified b := by
  cases hchange with
  | quiet timeout _ _ hroster hnext _ => exact h.of_sublist (hroster ▸ List.Sublist.refl _) hnext
  | admitted fd _ _ _ hroster hnext _ _ =>
      refine ⟨?_, ?_⟩
      · rw [hroster, List.map_append, List.pairwise_append]
        refine ⟨h.increasing, List.pairwise_singleton _ _, ?_⟩
        intro i hi j hj
        obtain ⟨x, hx, rfl⟩ := List.mem_map.mp hi
        rw [List.mem_singleton.mp hj]
        exact h.below x hx
      · intro x hx
        rw [hroster] at hx
        rw [hnext]
        rcases List.mem_append.mp hx with hold | hlast
        · exact Nat.lt_succ_of_lt (h.below x hold)
        · rw [List.mem_singleton.mp hlast]
          exact Nat.lt_succ_self _
  | removed x _ _ _ hroster hnext _ => exact h.of_sublist (hroster ▸ List.filter_sublist) hnext
  | retuned fd interest _ _ _ hroster hnext _ =>
      exact h.of_sublist (hroster ▸ List.Sublist.refl _) hnext
  | closed _ _ hroster hnext => exact h.of_sublist (hroster ▸ List.nil_sublist _) hnext

/-- Ids are apart in every reachable system. -/
theorem Reachable.identified (h : Reachable a) : Identified a := by
  -- that a step is one of the five changes relies on the pairing, which is carried along
  have hboth : Paired a ∧ Identified a := by
    refine h.induction (P := fun a => Paired a ∧ Identified a) ?_ ?_
    · intro s h data hfresh
      refine ⟨hfresh.paired data, ?_⟩
      have hroster : s.roster = [] := by
        rw [Server.roster, hfresh.connections]
        rfl
      exact ⟨by rw [hroster]; exact .nil, by rw [hroster]; exact fun _ hx => by cases hx⟩
    · rintro a b ⟨hpaired, hidentified⟩ hmoment
      refine ⟨hmoment.paired hpaired, ?_⟩
      cases hmoment with
      | step hstep => exact (hstep.change hpaired.keys_nodup).identified hidentified
      | wait =>
          rw [after_run]
          rcases hwait : a.server.wait a.host with ⟨r, s', h'⟩
          obtain ⟨polled, rfl, _⟩ := Server.wait_cases hwait
          exact ⟨hidentified.increasing, hidentified.below⟩
      | note noted => exact ⟨hidentified.increasing, hidentified.below⟩
  exact hboth.2

/-! ## What came of a system -/

/-- `b` is paired, and what its table holds was in that of `w` or got its id later. -/
structure Since (w b : Application L C D) : Prop where
  paired : Paired b
  nextId : w.server.nextId ≤ b.server.nextId
  origin : ∀ x ∈ b.server.roster, x ∈ w.server.roster ∨ w.server.nextId ≤ x.id

namespace Since

theorem refl (h : Paired w) : Since w w := ⟨h, Nat.le_refl _, fun _ hx => .inl hx⟩

theorem trans (hab : Since a b) (hbc : Since b c) : Since a c where
  paired := hbc.paired
  nextId := Nat.le_trans hab.nextId hbc.nextId
  origin := by
    intro x hx
    rcases hbc.origin x hx with hold | hnew
    · exact hab.origin x hold
    · exact .inr (Nat.le_trans hab.nextId hnew)

/-- After a change, who is new has an id that was not given out before. -/
theorem of_change (hpaired : Paired a) (hchange : Change a b) : Since a b := by
  refine ⟨hchange.paired hpaired, ?_, ?_⟩
  · cases hchange with
    | admitted _ _ _ _ _ hnext => exact hnext ▸ Nat.le_succ _
    | quiet _ _ _ _ hnext => exact Nat.le_of_eq hnext.symm
    | removed _ _ _ _ _ hnext => exact Nat.le_of_eq hnext.symm
    | retuned _ _ _ _ _ _ hnext => exact Nat.le_of_eq hnext.symm
    | closed _ _ _ hnext => exact Nat.le_of_eq hnext.symm
  · intro x hx
    cases hchange with
    | admitted fd _ _ _ hroster =>
        rw [hroster] at hx
        rcases List.mem_append.mp hx with hold | hlast
        · exact .inl hold
        · rw [List.mem_singleton.mp hlast]
          exact .inr (Nat.le_refl _)
    | quiet _ _ _ hroster => exact .inl (hroster ▸ hx)
    | removed y _ _ _ hroster =>
        rw [hroster] at hx
        exact .inl (List.mem_filter.mp hx).1
    | retuned _ _ _ _ _ hroster => exact .inl (hroster ▸ hx)
    | closed _ _ hroster =>
        rw [hroster] at hx
        cases hx

/-- Noting who is ready brings nobody in. -/
theorem of_note (hpaired : Paired a) (noted : List Ready) :
    Since a (after (onServer fun s => { s with ready := noted }) a) :=
  ⟨(Moment.note a noted).paired hpaired, Nat.le_refl _, fun _ hx => .inl hx⟩

/-- Neither the program nor the round gives an id twice. -/
theorem of_moment (hpaired : Paired a) (h : Moment a b) : Since a b := by
  have hnext := h.paired hpaired
  cases h with
  | step hstep => exact of_change hpaired (hstep.change hpaired.keys_nodup)
  | wait =>
      rw [after_run] at hnext ⊢
      rcases hwait : a.server.wait a.host with ⟨r, s', h'⟩
      rw [hwait] at hnext
      obtain ⟨polled, rfl, _⟩ := Server.wait_cases hwait
      exact ⟨hnext, Nat.le_refl _, fun _ hx => .inl hx⟩
  | note noted => exact of_note hpaired noted

/-- Along any history, who is new has an id that was not given out before. -/
theorem of_reaches (hpaired : Paired a) (h : Reaches a b) : Since a b := by
  induction h with
  | refl => exact refl hpaired
  | tail _ hlast ih => exact ih.trans (of_moment ih.paired hlast)

theorem of_operated (hpaired : Paired a) (h : Operated a b) : Since a b :=
  of_reaches hpaired h.reaches

/-- A connection with an id that was given out is still in its seat, if it is
    there at all. -/
theorem seat (h : Since w b) {x : Seat} (hx : x ∈ b.server.roster) (hid : x.id < w.server.nextId) :
    x ∈ w.server.roster := by
  rcases h.origin x hx with hold | hnew
  · exact hold
  · omega

/-- A connection that is gone does not come back. -/
theorem gone (h : Since w b) {id : Nat} (hid : id < w.server.nextId) (hgone : ¬ w.server.Live id) :
    ¬ b.server.Live id := by
  rintro ⟨x, hx, rfl⟩
  exact hgone ⟨x, h.seat hx hid, rfl⟩

/-- Who was in the table in `w` is live in `b` exactly when the connection found
    under its descriptor has its id. -/
theorem live_iff (h : Since w b) (hidentified : Identified w) {x : Seat}
    (hx : x ∈ w.server.roster) :
    b.server.Live x.id ↔ ∃ c, b.server.connections.get? x.key = some c ∧ c.id = x.id := by
  constructor
  · -- whoever has the id now had it in `w`, and there only one had it
    rintro ⟨y, hy, hid⟩
    have hold : y ∈ w.server.roster := h.seat hy (hid ▸ hidentified.below x hx)
    obtain rfl := hidentified.seat_eq hold hx hid
    obtain ⟨c, hget, hcid, _⟩ := (Server.mem_roster_iff h.paired.keys_nodup).mp hy
    exact ⟨c, hget, hcid⟩
  · rintro ⟨c, hget, hid⟩
    exact ⟨⟨x.key, c.id, c.socket⟩, Server.mem_roster_of_get? hget, hid⟩

end Since

end EventLoop
