import EventLoop.Proofs.Server.Limits
import EventLoop.Proofs.Server.Sessions

/-! # Connections stand in the order of their acceptance

    An id is the number of an acceptance. Clients that are turned away, connections
    that end and descriptors that come back do not count, and nothing that happens
    to a connection moves its entry in the set past that of a younger one.

    * `Admissions`: what happened to a server, with the connections that came in on the
      way. Whatever can happen has such a history (`Admissions.of_reaches`).
    * `Numbered`: ids count the history, and those in the table are in its order.
      It is kept by an admission (`Numbered.accepted`) and by everything else
      (`Numbered.passed`), and so by all histories (`Admissions.numbered`).
    * `Reachable.watched_increasing`: the order of the set is that of the ids, and
      hence the order in which a round calls handlers. -/

namespace EventLoop

open Application

variable {L C D : Type} {a b : Application L C D} {handlers : Handlers L C D}

/-! ## Admissions -/

/-- Moments lead from one system to another, and these connections came in on the way,
    the first one first. -/
inductive Admissions (a : Application L C D) : List (Connection C) → Application L C D → Prop
  | start : Admissions a [] a
  /-- A client was accepted. -/
  | accepted {earlier : List (Connection C)} {b : Application L C D} {handler : C} {fd : Descriptor}
      {s : Server L C} {h : Host} {c : Connection C} (hearlier : Admissions a earlier b)
      (haccept : b.server.accept handler b.host = (.ok fd, s, h))
      (hget : s.connections.get? fd = some c) :
      Admissions a (earlier ++ [c]) { b with server := s, host := h }
  /-- Something happened after which nobody is in the table who was not there before. -/
  | passed {earlier : List (Connection C)} {b b' : Application L C D}
      (hearlier : Admissions a earlier b)
      (hmoment : Moment b b') (hnobody : b'.server.roster ⊆ b.server.roster) :
      Admissions a earlier b'

/-- A connection that was accepted has the next id, and the last seat. -/
theorem Paired.accepted (h : Paired a) {handler : C} {fd : Descriptor} {s : Server L C} {h' : Host}
    {c : Connection C} (haccept : a.server.accept handler a.host = (.ok fd, s, h'))
    (hget : s.connections.get? fd = some c) :
    c.id = a.server.nextId ∧ s.nextId = a.server.nextId + 1
      ∧ s.roster = a.server.roster ++ [⟨fd, a.server.nextId, ⟨fd⟩⟩] := by
  obtain ⟨e, _, herror, _⟩ | ⟨_, _, _, hok, _, hfresh, hadmits, _⟩ :=
    a.server.accept_cases handler a.host
  · cases haccept.symm.trans herror
  · cases haccept.symm.trans hok
    refine ⟨?_, hadmits.nextId, hadmits.roster⟩
    -- the descriptor was free, so that nobody else is found under it
    obtain hold | ⟨_, _, peer, rfl⟩ := hadmits.get?_cases hget
    · have hmem := Server.mem_roster_of_get? hold
      exact absurd (h.isOpen (h.mem_descriptors hmem)) hfresh
    · rfl

/-- A moment lets somebody in only by accepting. -/
theorem Moment.nobody_or_accepted (h : Moment a b) (hkeys : a.server.connections.keys.Nodup) :
    b.server.roster ⊆ a.server.roster
      ∨ ∃ handler fd s h' c, a.server.accept handler a.host = (.ok fd, s, h')
        ∧ s.connections.get? fd = some c ∧ b = { a with server := s, host := h' } := by
  have hsame : b.server.connections = a.server.connections → b.server.roster ⊆ a.server.roster := by
    intro hconnections
    rw [Server.roster, hconnections, Server.roster]
    exact List.Subset.refl _
  -- only one of the ways in which things happen brings somebody in
  cases h with
  | wait =>
      rw [after_run] at hsame ⊢
      rcases hwait : a.server.wait a.host with ⟨r, s', h'⟩
      rw [hwait] at hsame
      obtain ⟨polled, rfl, _⟩ := Server.wait_cases hwait
      exact .inl (hsame rfl)
  | note noted => exact .inl (hsame rfl)
  | step hstep =>
      cases hstep with
      | accept handler =>
          rw [after_run] at hsame ⊢
          obtain ⟨e, h', haccept, _⟩ | ⟨fd, s', h', haccept, _, _, hadmits, _⟩ :=
            a.server.accept_cases handler a.host
          · rw [haccept] at hsame ⊢
            exact .inl (hsame rfl)
          · have hmem : fd ∈ s'.connections.keys := by
              rw [Server.keys_eq_roster, hadmits.roster]
              exact List.mem_map_of_mem (List.mem_append_right _ List.mem_cons_self)
            obtain ⟨c, hget⟩ := DescriptorTable.exists_get?_of_mem_keys hmem
            exact .inr ⟨handler, fd, s', h', c, haccept, hget, by rw [haccept]⟩
      | disconnect fd =>
          rw [after_run] at hsame ⊢
          obtain ⟨_, h', hdisconnect, _⟩ | ⟨c, _, h', hdisconnect, _⟩ :=
            a.server.disconnect_cases fd a.host
          · rw [hdisconnect] at hsame ⊢
            exact .inl (hsame rfl)
          · rw [hdisconnect]
            left
            show (a.server.connections.erase fd).entries.map Server.seat ⊆ _
            rw [Server.roster_erase]
            exact List.filter_sublist.subset
      | setInterest fd interest =>
          obtain ⟨e, _, hafter⟩ | ⟨s', hset, hafter⟩ := after_setInterest a fd interest
          · rw [hafter]
            exact .inl (List.Subset.refl _)
          · obtain ⟨_, polled, _, rfl⟩ := Server.setInterest_cases hset
            rw [hafter]
            exact .inl (List.Subset.refl _)
      | cleanup =>
          rw [after_run]
          dsimp only
          rw [Server.cleanup_server]
          exact .inl (List.nil_subset _)
      | setTimeout timeout => exact .inl (hsame rfl)
      | setHandler handler => exact .inl (hsame rfl)
      | keep userData => exact .inl (hsame rfl)
      | use hkept hopen =>
          left
          show (a.server.onConnection _ _).roster ⊆ _
          rw [Server.roster_onConnection hkeys hkept]
          exact List.Subset.refl _
      | world hopen => exact .inl (hsame rfl)
      | data data => exact .inl (hsame rfl)

/-- Whatever happens to a system has a history. -/
theorem Admissions.of_reaches (hpaired : Paired a) (h : Reaches a b) :
    ∃ history, Admissions a history b := by
  -- on what happened, which lets in one connection at most each time
  induction h with
  | refl => exact ⟨[], .start⟩
  | tail hreach hmoment ih =>
      obtain ⟨earlier, hearlier⟩ := ih
      have hkeys := (Since.of_reaches hpaired hreach).paired.keys_nodup
      obtain hnobody | ⟨_, _, _, _, c, haccept, hget, rfl⟩ := hmoment.nobody_or_accepted hkeys
      · exact ⟨earlier, hearlier.passed hmoment hnobody⟩
      · exact ⟨earlier ++ [c], hearlier.accepted haccept hget⟩

/-- Admissions happen in a run. -/
theorem Admissions.reaches {history : List (Connection C)} (h : Admissions a history b) :
    Reaches a b := by
  induction h with
  | start => exact .refl
  | @accepted _ b handler _ _ _ _ _ haccept _ ih =>
      have hstep := Step.accept b handler
      rw [after_run, haccept] at hstep
      exact ih.tail (.step hstep)
  | passed _ hmoment _ ih => exact ih.tail hmoment

/-! ## Ids -/

/-- Ids count the connections accepted so far, and whoever is left of them is in the table in
    the same order. -/
structure Numbered (history : List (Connection C)) (s : Server L C) : Prop where
  ids : history.map Connection.id = List.range' 1 history.length
  nextId : s.nextId = history.length + 1
  left : (s.roster.map Seat.id).Sublist (history.map Connection.id)

namespace Numbered

variable {history : List (Connection C)}

/-- Before the first connection nobody has a number. -/
theorem of_bind {address : String} {handler : L} {config : Config} {s : Server L C} {h h' : Host}
    (hbind : Server.bind address handler config h = (.ok s, h')) : Numbered [] s := by
  have hbinds := Server.bind_binds (C := C) address handler config h
  rw [hbind] at hbinds
  cases hbinds with
  | bound => exact ⟨rfl, rfl, List.Sublist.refl _⟩

/-- The next connection gets the next number. -/
theorem accepted (h : Numbered history a.server) (hpaired : Paired a) {handler : C}
    {fd : Descriptor} {s : Server L C} {h' : Host} {c : Connection C}
    (haccept : a.server.accept handler a.host = (.ok fd, s, h'))
    (hget : s.connections.get? fd = some c) :
    Numbered (history ++ [c]) s := by
  obtain ⟨hid, hnext, hroster⟩ := hpaired.accepted haccept hget
  have hlast : c.id = 1 + history.length := by rw [hid, h.nextId, Nat.add_comm]
  refine ⟨?_, ?_, ?_⟩
  · rw [List.map_append, h.ids, List.length_append, List.length_singleton, List.range'_1_concat,
      List.map_singleton, hlast]
  · rw [hnext, h.nextId, List.length_append, List.length_singleton]
  · rw [hroster, List.map_append, List.map_append, ← hid]
    exact h.left.append (List.Sublist.refl _)

/-- Who is not new leaves the number of the next one as it is. -/
theorem passed (h : Numbered history a.server) (hpaired : Paired a) (hidentified : Identified a)
    (hmoment : Moment a b) (hnobody : b.server.roster ⊆ a.server.roster) :
    Numbered history b.server := by
  have hkept : (b.server.roster.Sublist a.server.roster) ∧ b.server.nextId = a.server.nextId := by
    cases hmoment with
    | wait =>
        rw [after_run]
        rcases hwait : a.server.wait a.host with ⟨r, s', h'⟩
        obtain ⟨polled, rfl, _⟩ := Server.wait_cases hwait
        exact ⟨List.Sublist.refl _, rfl⟩
    | note noted => exact ⟨List.Sublist.refl _, rfl⟩
    | step hstep =>
        cases hstep.change hpaired.keys_nodup with
        | quiet _ _ _ hroster hnext _ => exact ⟨hroster ▸ List.Sublist.refl _, hnext⟩
        | admitted fd _ _ _ hroster =>
            -- whoever came in has an id that nobody in the table had
            have hmem : ⟨fd, a.server.nextId, ⟨fd⟩⟩ ∈ a.server.roster := by
              refine hnobody ?_
              rw [hroster]
              exact List.mem_append_right _ List.mem_cons_self
            exact absurd (hidentified.below _ hmem) (Nat.lt_irrefl _)
        | removed _ _ _ _ hroster hnext _ => exact ⟨hroster ▸ List.filter_sublist, hnext⟩
        | retuned _ _ _ _ _ hroster hnext _ => exact ⟨hroster ▸ List.Sublist.refl _, hnext⟩
        | closed _ _ hroster hnext => exact ⟨hroster ▸ List.nil_sublist _, hnext⟩
  obtain ⟨hroster, hnext⟩ := hkept
  exact ⟨h.ids, hnext.trans h.nextId, (hroster.map Seat.id).trans h.left⟩

/-- Whoever came later has the larger id. -/
theorem increasing (h : Numbered history a.server) : history.Pairwise fun c c' => c.id < c'.id := by
  rw [← List.pairwise_map, h.ids]
  exact List.pairwise_lt_range'

/-- No id exceeds the number of connections accepted so far. -/
theorem id_le (h : Numbered history a.server) {c : Connection C} (hc : c ∈ history) :
    c.id ≤ history.length := by
  have hmem : c.id ∈ List.range' 1 history.length := h.ids ▸ List.mem_map_of_mem hc
  have := (List.mem_range'_1.mp hmem).2
  omega

/-- Whoever is there was accepted once. -/
theorem live (h : Numbered history a.server) {id : Nat} (hlive : a.server.Live id) :
    ∃ c ∈ history, c.id = id := by
  obtain ⟨x, hx, rfl⟩ := hlive
  exact List.mem_map.mp (h.left.subset (List.mem_map_of_mem hx))

end Numbered

/-- All histories of a system keep the count. -/
theorem Admissions.numbered {history : List (Connection C)} (h : Admissions a history b)
    (hreach : Reachable a) (hstart : Numbered [] a.server) : Numbered history b.server := by
  -- on what happened; an admission takes the next number
  induction h with
  | start => exact hstart
  | accepted hearlier haccept hget ih =>
      exact ih.accepted (hreach.of_reaches hearlier.reaches).paired haccept hget
  | passed hearlier hmoment hnobody ih =>
      have hbefore := hreach.of_reaches hearlier.reaches
      exact ih.passed hbefore.paired hbefore.identified hmoment hnobody

/-! ## The order of the set -/

/-- Behind the listener the set is in the order of the ids. -/
theorem Reachable.watched_increasing (h : Reachable a) :
    (a.server.polled.toList.drop 1).Pairwise fun e e' => ∀ c c',
      a.server.connections.get? e.fd = some c → a.server.connections.get? e'.fd = some c' →
      c.id < c'.id := by
  have hpaired := h.paired
  -- behind the listener the set has the keys of the table, in its order
  have hbehind : (a.server.polled.toList.drop 1).map PollEntry.fd
      = a.server.connections.entries.map Prod.fst := by
    rw [List.map_drop]
    show a.server.polled.descriptors.drop 1 = a.server.connections.keys
    rw [hpaired.watched, Server.keys_eq_roster]
    cases hlistener : a.server.listener with
    | none =>
        rw [hpaired.ended hlistener]
        rfl
    | some l => rfl
  have hentries : a.server.connections.entries.Pairwise fun x y => x.2.id < y.2.id := by
    have hincreasing := h.identified.increasing
    rw [Server.roster, List.map_map] at hincreasing
    exact List.pairwise_map.mp hincreasing
  rw [← List.pairwise_map (f := PollEntry.fd) (R := fun fd fd' => ∀ c c',
    a.server.connections.get? fd = some c → a.server.connections.get? fd' = some c' →
    c.id < c'.id), hbehind,
    List.pairwise_map]
  refine hentries.imp_of_mem ?_
  intro x y hx hy hlt c c' hget hget'
  obtain rfl :=
    Option.some.inj ((DescriptorTable.get?_of_mem hpaired.keys_nodup hx).symm.trans hget)
  obtain rfl :=
    Option.some.inj ((DescriptorTable.get?_of_mem hpaired.keys_nodup hy).symm.trans hget')
  exact hlt

/-- What is noted of entries is in their order. -/
theorem Server.notes_increasing {s : Server L C} {entries : List PollEntry} {noted : List Ready}
    (hnoted : List.Forall₂ s.Notes entries noted)
    (hentries : entries.Pairwise fun e e' => ∀ c c',
      s.connections.get? e.fd = some c → s.connections.get? e'.fd = some c' → c.id < c'.id) :
    noted.Pairwise fun r r' => r.id < r'.id := by
  induction hnoted with
  | nil => exact .nil
  | cons hnote hrest ih =>
      obtain ⟨hfirst, hothers⟩ := List.pairwise_cons.mp hentries
      refine List.pairwise_cons.mpr ⟨?_, ih hothers⟩
      intro r' hr'
      obtain ⟨e', he', c', hget', rfl⟩ := notes_mem hrest r' hr'
      obtain ⟨c, hget, rfl⟩ := hnote
      exact hfirst e' he' c c' hget hget'

/-- In its turn the handler of the connection is called. -/
def Turn.Serves (t : Turn L C D) (c : Connection C) : Prop :=
  t.before.server.connections.get? t.ready.fd = some c ∧ c.id = t.ready.id

/-- The turns of a round are in the order of its note. -/
theorem Round.increasing {ready : Nat} {noted : List Ready} {turns : List (Turn L C D)}
    {outcome : Outcome L C D (Except Error Nat)} (h : Round handlers ready noted a turns outcome)
    (hnoted : noted.Pairwise fun r r' => r.id < r'.id) :
    turns.Pairwise fun t t' => ∀ c c', t.Serves c → t'.Serves c' → c.id < c'.id := by
  have hready := List.pairwise_map.mp (hnoted.sublist h.turns_ready.1.sublist)
  refine hready.imp ?_
  rintro t t' hlt c c' ⟨_, hid⟩ ⟨_, hid'⟩
  rw [hid, hid']
  exact hlt

/-! ## Ids in a run -/

/-- In whatever a new server has come to, with any history that led there, a connection has a
    larger id than all that were accepted before it, and a machine word holds the ids as long
    as fewer were accepted than it has values. Live ids are ids of the history and lie below
    the next one. Behind the listener every entry of the set has its connection, and their ids
    grow; so a round calls the handlers of connections in the order of acceptance. -/
theorem ids_order_connections {address : String} {handler : L} {config : Config}
    {s : Server L C} {h h' : Host}
    {data : D} (hbind : Server.bind address handler config h = (.ok s, h'))
    (hreach : Reaches ⟨s, h', data⟩ b) :
    (∃ history, Admissions ⟨s, h', data⟩ history b)
      ∧ (∀ history, Admissions ⟨s, h', data⟩ history b →
          (history.Pairwise fun c c' => c.id < c'.id)
            ∧ (history.length < UInt64.size → ∀ c ∈ history, c.id < UInt64.size)
            ∧ b.server.nextId = history.length + 1
            ∧ ∀ id, b.server.Live id → id < b.server.nextId ∧ ∃ c ∈ history, c.id = id)
      ∧ (∀ e ∈ b.server.polled.toList.drop 1, ∃ c, b.server.connections.get? e.fd = some c)
      ∧ ((b.server.polled.toList.drop 1).Pairwise fun e e' => ∀ c c',
          b.server.connections.get? e.fd = some c → b.server.connections.get? e'.fd = some c' →
          c.id < c'.id)
      ∧ ∀ (handlers : Handlers L C D) (n : Nat) (woken : Server L C)
      (host : Host), handlers.Operate →
          b.server.isBound = true → b.server.wait b.host = (.ok n, woken, host) → 0 < n →
            ∃ noted turns, List.Forall₂ woken.Notes woken.readyEntries noted
              ∧ Round handlers n noted { b with server := woken, host := host } turns
                (Server.poll handlers b)
              ∧ turns.Pairwise fun t t' => ∀ c c', t.Serves c → t'.Serves c' → c.id < c'.id := by
  have hnew : Reachable (⟨s, h', data⟩ : Application L C D) :=
    ⟨_, _, _, _, _, _, data, hbind, .refl⟩
  have hb : Reachable b := hnew.of_reaches hreach
  refine ⟨Admissions.of_reaches hnew.paired hreach, ?_,
    fun e he => hb.paired.connection_of_entry he, hb.watched_increasing, ?_⟩
  · intro history hhistory
    have hnumbered := hhistory.numbered hnew (.of_bind hbind)
    refine ⟨hnumbered.increasing, ?_, hnumbered.nextId, ?_⟩
    · intro hfew c hc
      exact Nat.lt_of_le_of_lt (hnumbered.id_le hc) hfew
    · intro id hlive
      obtain ⟨x, hx, rfl⟩ := hlive
      exact ⟨hb.identified.below x hx, hnumbered.live ⟨x, hx, rfl⟩⟩
  · intro handlers n woken host hoperate hbound hwait hn
    obtain ⟨noted, turns, hnoted, hround⟩ := hb.rounds hbound hoperate hwait hn
    have hwoken : Reachable { b with server := woken, host := host } :=
      hb.of_moment (.of_wait hwait)
    -- the note is a part of the set, which is in the order of ids
    have hready : woken.readyEntries.Pairwise fun e e' => ∀ c c',
        woken.connections.get? e.fd = some c → woken.connections.get? e'.fd = some c' →
        c.id < c'.id :=
      hwoken.watched_increasing.sublist List.filter_sublist
    exact ⟨noted, turns, hnoted, hround, hround.increasing (Server.notes_increasing hnoted hready)⟩

/-- Two clients accepted, and the first of them replaced by a third one on its descriptor: the
    third connection is the last one, in the set and in a round. -/
theorem ids_order_connections_replaced : ∃ (start app : Application Unit Unit Unit)
    (history : List (Connection Unit)) (woken : Server Unit Unit) (host : Host) (noted : List Ready)
    (turns : List (Turn Unit Unit Unit)),
    Loopback.bound? = some start ∧ Admissions start history app ∧ history.length = 3
      ∧ app.server.connections.keys = [5, 4] ∧ (history.Pairwise fun c c' => c.id < c'.id)
      ∧ Round Loopback.handlers 2 noted { app with server := woken, host := host } turns
          (Server.poll Loopback.handlers app)
      ∧ turns.Pairwise fun t t' => ∀ c c', t.Serves c → t'.Serves c' → c.id < c'.id := by
  have hserving : (Loopback.serving? 3 2).map (fun app =>
      ((app.replaced 4 ()).server.connections.keys, (app.replaced 4 ()).server.nextId,
        (app.replaced 4 ()).server.isBound,
        ((app.replaced 4 ()).server.wait (app.replaced 4 ()).host).1))
          = some ([5, 4], 4, true, .ok 2) := by
    decide +kernel
  obtain ⟨app, happ, hparts⟩ := Option.map_eq_some_iff.mp hserving
  simp only [Prod.mk.injEq] at hparts
  obtain ⟨hkeys, hnext, hbound, hanswer⟩ := hparts
  obtain ⟨start, hstart, hsteps⟩ := Loopback.serving_operated happ
  have hreach : Reaches start (app.replaced 4 ()) :=
    hsteps.reaches.trans (operated_replaced app 4 ()).reaches
  rcases hwait : (app.replaced 4 ()).server.wait (app.replaced 4 ()).host with ⟨answer, woken, host⟩
  rw [hwait] at hanswer
  obtain rfl : answer = .ok 2 := hanswer
  obtain ⟨⟨history, hhistory⟩, hids, _, _, hrounds⟩ :=
    ids_order_connections (Loopback.bind_of_bound hstart) hreach
  obtain ⟨hincreasing, _, hcount, _⟩ := hids history hhistory
  obtain ⟨noted, turns, _, hround, hturns⟩ :=
    hrounds Loopback.handlers 2 woken host Loopback.handlers_operate hbound hwait (by decide)
  exact ⟨start, app.replaced 4 (), history, woken, host, noted, turns, hstart, hhistory, by omega,
    hkeys, hincreasing, hround, hturns⟩

end EventLoop
