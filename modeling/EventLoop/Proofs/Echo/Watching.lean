import EventLoop.Proofs.Echo.Runs

/-! # What an echo server watches

    The interest of a connection is kept in two places, the set and the status, and both
    follow from its buffers. Of every connection that is live the set asks for what the
    status says; a connection whose handler has run watches what it should (`Tuned`), and
    one that was only accepted watches both directions with nothing in its buffers
    (`Untouched`).

    * `Watches` says this of a server, with the connections that are known to have been
      served. It is kept by whatever happens: by clients that are taken or turned away
      (`Watches.listener`), by calls (`Watches.call`, which adds to the connections
      served), by rounds and between them (`Watches.happens`).
    * `Calls` is the outcome of a call, with the turn that led to it.
    * `Attended`: in some round that came before the handler of a connection was called.
      From there on the connection is among those served (`Attended.watches`). -/

namespace EventLoop.Echo

open Application

variable {size n id : Nat} {noted : List Ready} {served : List Nat} {a b w : Service}
  {s : Server Unit Unit} {h' : Host} {fd : Descriptor} {c : Connection Unit} {r : Ready}
  {turns : List (EventLoop.Turn Unit Unit Stats)}

/-! ## Connections -/

/-- The connection watches what it should, and that is something. -/
structure Tuned (c : Connection Unit) : Prop where
  masked : c.status &&& watchMask = wanted c
  watching : wanted c ≠ 0

/-- The connection is as it was accepted. -/
structure Untouched (c : Connection Unit) : Prop where
  status : c.status = watchMask
  input : c.input.isEmpty = true
  output : c.output.isEmpty = true

/-- A newcomer that is set to watch both directions. -/
theorem untouched_newcomer (hsize : s.config.bufferSize.isPowerOfTwo) (fd : Descriptor)
    (peer : Address) :
    Untouched { s.newcomer fd peer () with status := watchMask } := by
  have hempty : (RingBuffer.blank s.config.bufferSize).isEmpty = true := by
    rw [RingBuffer.isEmpty_eq (RingBuffer.blank_wellFormed hsize), RingBuffer.toList_blank hsize]
    rfl
  exact ⟨rfl, hempty, hempty⟩

/-- The mark is apart from the directions. -/
theorem marked_masked (status : Status) :
    (status ||| closing) &&& watchMask = status &&& watchMask := by
  have hapart : closing &&& watchMask = 0 := rfl
  rw [BitVec.and_comm, BitVec.and_or_distrib_left, BitVec.and_comm watchMask,
    BitVec.and_comm watchMask, hapart]
  exact BitVec.or_zero

/-- An input that is empty has room, for buffers are not of size zero. -/
theorem Carries.not_full_of_empty {s : Stream} (h : Carries size s c)
    (hinput : c.input.isEmpty = true) :
    c.input.isFull = false := by
  rw [RingBuffer.isEmpty_eq h.input, List.isEmpty_iff] at hinput
  rw [RingBuffer.isFull_eq h.input, hinput]
  exact beq_eq_false_iff_ne.mpr (Nat.ne_of_lt h.input.capacity_pos)

/-- Who is not finished has something to watch for. -/
theorem wanted_ne_zero {t : Turn} {s : Stream} (hcarries : Carries size s t.connection)
    (hkept : t.isFinished = false) :
    wanted t.connection ≠ 0 := by
  intro hnothing
  have hread := has_watchRead_wanted t.connection.status t.connection.input.isFull t.backlog
  have hwrite := has_watchWrite_wanted t.connection.status t.connection.input.isFull t.backlog
  have hwanted : wantedWatch t.connection.status t.connection.input.isFull t.backlog = 0 := hnothing
  rw [hwanted] at hread hwrite
  -- nothing waits to go out, so the input is empty, and only the mark stops the reading
  have hbacklog : t.backlog = false := hwrite.symm
  have hempty : t.connection.input.isEmpty = true := by
    rw [Turn.backlog, Bool.or_eq_false_iff, Bool.not_eq_false'] at hbacklog
    exact hbacklog.2
  rw [hcarries.not_full_of_empty hempty, Bool.not_false, Bool.and_true] at hread
  have hclosing : has t.connection.status closing = true := by
    rw [← Bool.not_eq_false']
    exact hread.symm
  rw [Turn.isFinished, hclosing, hbacklog] at hkept
  cases hkept

/-- A connection that goes on watches something: it has room for more, or something to hand
    back. -/
theorem tuned_tuned {t : Turn} {s : Stream} (hcarries : Carries size s t.connection)
    (hkept : t.isFinished = false) :
    Tuned (tuned t.connection) where
  masked := (tuned_masked t.connection).trans (wanted_tuned t.connection).symm
  watching := by
    rw [wanted_tuned]
    exact wanted_ne_zero hcarries hkept

/-! ## The server -/

/-- What holds of the interests in every run of an echo server, with some connections
    noted, and some that have been served. -/
structure Watches (size : Nat) (noted : List Ready) (served : List Nat) (a : Service) : Prop where
  reachable : Reachable a
  echoes : Echoes size [] noted a
  listens : ∀ l, a.server.listener = some l → a.host.kernel.Listens l.fd
  /-- What is asked of the system is what the status says. -/
  asks : ∀ fd c, a.server.connections.get? fd = some c →
    a.server.polled.interest? fd = some (interestFor (c.status &&& watchMask))
  state : ∀ fd c, a.server.connections.get? fd = some c → Tuned c ∨ Untouched c
  served : ∀ id ∈ served, id < a.server.nextId
    ∧ ∀ fd c, a.server.connections.get? fd = some c → c.id = id → Tuned c

/-- What the call for a ready connection comes to: the turn, and either the connection
    goes on, tuned, or it is closed. -/
inductive Calls (size : Nat) (a : Service) (r : Ready) (c : Connection Unit) : Service → Prop
  | kept {i count : Nat} {s s' : Stream} {h : Host} {t : Turn} {polled : PollSet}
      (hkernel : h.kernel = a.host.kernel) (hjoins : a.host.Joins r.fd i s)
      (hcarries : Carries size s c)
      (hserve : (⟨c, a.data, h⟩ : Turn).serve r.events = (true, t))
      (hwent : Turn.Went size i s ⟨c, a.data, h⟩ count s' t)
      (hasks : a.server.polled.Asks r.fd (interestFor (wanted t.connection)) polled) :
      Calls size a r c ⟨{ a.server with
        polled := polled
        connections :=
          a.server.connections.modify r.fd fun _ => tuned t.connection }, t.host, t.stats⟩
  | closed {i count : Nat} {s s' : Stream} {h host : Host} {t : Turn} {stats : Stats}
      (hkernel : h.kernel = a.host.kernel) (hjoins : a.host.Joins r.fd i s)
      (hcarries : Carries size s c)
      (hserve : (⟨c, a.data, h⟩ : Turn).serve r.events = (false, t))
      (hwent : Turn.Went size i s ⟨c, a.data, h⟩ count s' t)
      (hclose : host.kernel = t.host.kernel.close r.fd) :
      Calls size a r c ⟨{ a.server with
        polled := (a.server.polled.remove r.fd).2
        connections := a.server.connections.erase r.fd }, host, stats⟩

namespace Calls

/-- Whoever is live after the call was not concerned, or is the connection that was called,
    and tuned. -/
theorem live_cases {c' : Connection Unit} (h : Calls size a r c b) (hp : a.server.polled.WellFormed)
    (hget : a.server.connections.get? r.fd = some c)
    (hlive : b.server.connections.get? fd = some c') :
    (fd ≠ r.fd ∧ a.server.connections.get? fd = some c'
        ∧ b.server.polled.interest? fd = a.server.polled.interest? fd)
      ∨ (fd = r.fd ∧ c'.id = c.id ∧ Tuned c'
        ∧ b.server.polled.interest? fd = some (interestFor (c'.status &&& watchMask))) := by
  cases h with
  | @kept _ _ _ _ _ t _ _ _ _ hserve hwent hasks =>
      by_cases hne : fd = r.fd
      · subst hne
        rw [DescriptorTable.get?_modify_self, hget] at hlive
        obtain rfl := Option.some.inj hlive
        refine .inr ⟨rfl, hwent.id, tuned_tuned hwent.carries (Turn.serve_kept hserve), ?_⟩
        rw [tuned_masked]
        exact hasks.self
      · rw [DescriptorTable.get?_modify_of_ne _ _ hne] at hlive
        exact .inl ⟨hne, hlive, hasks.others fd hne⟩
  | closed _ _ _ _ _ _ =>
      have hne : fd ≠ r.fd := by
        rintro rfl
        cases (DescriptorTable.get?_erase_self _ _).symm.trans hlive
      rw [DescriptorTable.get?_erase_of_ne _ hne] at hlive
      exact .inl ⟨hne, hlive, PollSet.interest?_remove_of_ne hp hne⟩

/-- A call for one connection leaves every listener listening. -/
theorem listens (h : Calls size a r c b) (hlistens : a.host.kernel.Listens fd) (hne : fd ≠ r.fd) :
    b.host.kernel.Listens fd := by
  cases h with
  | kept hkernel _ _ _ hwent _ =>
      show Kernel.Listens _ fd
      rw [hwent.on, hkernel]
      exact hlistens
  | closed hkernel _ _ _ hwent hclose =>
      show Kernel.Listens _ fd
      rw [hclose, hwent.on, hkernel]
      exact Kernel.Listens.close hlistens hne

end Calls

namespace Watches

/-- Neither connections nor interests change. -/
theorem quiet {noted' : List Ready} (h : Watches size noted served a) (hreach : Reachable b)
    (hechoes : Echoes size [] noted' b)
    (hlistens : ∀ l, b.server.listener = some l → b.host.kernel.Listens l.fd)
    (hconnections : b.server.connections = a.server.connections)
    (hnext : b.server.nextId = a.server.nextId)
    (hinterest : ∀ fd, b.server.polled.interest? fd = a.server.polled.interest? fd) :
    Watches size noted' served b where
  reachable := hreach
  echoes := hechoes
  listens := hlistens
  asks := by
    intro fd c hget
    rw [hinterest]
    exact h.asks fd c (hconnections ▸ hget)
  state := by
    intro fd c hget
    exact h.state fd c (hconnections ▸ hget)
  served := by
    intro id hid
    obtain ⟨hlt, htuned⟩ := h.served id hid
    refine ⟨hnext ▸ hlt, fun fd c hget => htuned fd c (hconnections ▸ hget)⟩

theorem of_subset {noted' : List Ready} {served' : List Nat} (h : Watches size noted served a)
    (hnoted : noted' ⊆ noted) (hserved : served' ⊆ served) : Watches size noted' served' a :=
  ⟨h.reachable, h.echoes.of_subset hnoted, h.listens, h.asks, h.state,
    fun id hid => h.served id (hserved hid)⟩

/-! ## The listener -/

theorem log (h : Watches size noted served a) (level : Log.Level) (message : String) :
    Watches size noted served { a with host := a.host.log level message } :=
  h.quiet (h.reachable.of_moment (.step (.world a fun _ hfd => hfd))) (h.echoes.log level message)
    h.listens rfl rfl
    fun _ => rfl

theorem count (h : Watches size noted served a) (stats : Stats) :
    Watches size noted served { a with data := stats } :=
  h.quiet (h.reachable.of_moment (.step (.data a stats)))
    (h.echoes.quiet rfl rfl rfl (.of_files rfl rfl)) h.listens
    rfl rfl fun _ => rfl

/-- What accepting leaves is reached. -/
theorem accepted {answer : Except Error Descriptor} (h : Watches size noted served a)
    (haccept : a.server.accept () a.host = (answer, s, h')) :
    Reachable { a with server := s, host := h' } := by
  have hstep := Step.accept a ()
  rw [after_run, haccept] at hstep
  exact h.reachable.of_moment (.step hstep)

/-- A client that is turned away. -/
theorem refused {e : Error} (h : Watches size noted served a)
    (haccept : a.server.accept () a.host = (.error e, a.server, h')) :
    Watches size noted served { a with host := h' } := by
  refine h.quiet (h.accepted haccept) (h.echoes.refused haccept) ?_ rfl rfl fun _ => rfl
  intro l hl
  have hlistens := h.listens l hl
  obtain hkernel | ⟨_, fd, first, k, _, haccepts, hkernel⟩ := Server.kernel_of_refused haccept
  · exact hlistens.alike (.of_files (by rw [hkernel]) (by rw [hkernel]))
  · have htaken := (hlistens.accept haccepts).alike (k.alike_setNonblocking fd)
    show h'.kernel.Listens l.fd
    rw [hkernel]
    exact htaken.close (hlistens.ne_of_fresh haccepts.fresh)

/-- A client that is let in watches both directions. -/
theorem admitted (h : Watches size noted served a)
    (haccept : a.server.accept () a.host = (.ok fd, s, h')) :
    Watches size noted served
      { a with
        server := s.onConnection fd fun c => { c with status := watchMask }, host := h' } := by
  obtain ⟨_, first, k, _, haccepts, hadmits, hkernel⟩ := Server.admits_of_accept haccept
  have hwellFormed := h.reachable.paired.wellFormed
  have hnone := h.echoes.get?_of_fresh haccepts.fresh
  -- whoever is live was so before, or is the newcomer
  have hlive : ∀ other c,
      (s.onConnection fd fun c => { c with status := watchMask }).connections.get? other = some c →
      (other ≠ fd ∧ a.server.connections.get? other = some c)
        ∨ (other = fd ∧ ∃ peer, c = { a.server.newcomer fd peer () with status := watchMask }) := by
    intro other c hget
    rw [Server.onConnection] at hget
    by_cases hne : other = fd
    · subst hne
      rw [DescriptorTable.get?_modify_self] at hget
      obtain ⟨new, hnew, rfl⟩ := Option.map_eq_some_iff.mp hget
      obtain hold | ⟨_, _, peer, rfl⟩ := hadmits.get?_cases hnew
      · cases hnone.symm.trans hold
      · exact .inr ⟨rfl, peer, rfl⟩
    · rw [DescriptorTable.get?_modify_of_ne _ _ hne] at hget
      obtain hold | ⟨_, hsame, _⟩ := hadmits.get?_cases hget
      · exact .inl ⟨hne, hold⟩
      · exact absurd hsame hne
  have hused : Step { a with server := s, host := h' }
      { a with server := s.onConnection fd fun c => { c with status := watchMask }, host := h' } :=
    .use _ (fun c _ => ⟨rfl, rfl⟩) fun _ hfd => hfd
  refine ⟨(h.accepted haccept).of_moment (.step hused), h.echoes.admitted haccept, ?_, ?_, ?_, ?_⟩
  · intro l hl
    have htaken :=
      ((h.listens l (hadmits.listener ▸ hl)).accept haccepts).alike (k.alike_setNonblocking fd)
    show h'.kernel.Listens l.fd
    rwa [hkernel]
  · intro other c hget
    obtain ⟨hne, hold⟩ | ⟨rfl, peer, rfl⟩ := hlive other c hget
    · exact (PollSet.interest?_add_of_ne hwellFormed hadmits.polled hne).trans (h.asks other c hold)
    · have hboth : interestFor (watchMask &&& watchMask) = .connection := rfl
      rw [hboth]
      exact PollSet.interest?_add_self hwellFormed hadmits.polled
  · intro other c hget
    obtain ⟨_, hold⟩ | ⟨rfl, peer, rfl⟩ := hlive other c hget
    · exact h.state other c hold
    · exact .inr (untouched_newcomer hadmits.size other peer)
  · intro id hid
    obtain ⟨hlt, htuned⟩ := h.served id hid
    have hnext : id < s.nextId := by
      rw [hadmits.nextId]
      exact Nat.lt_succ_of_lt hlt
    refine ⟨hnext, ?_⟩
    intro other c hget hsame
    obtain ⟨_, hold⟩ | ⟨rfl, peer, rfl⟩ := hlive other c hget
    · exact htuned other c hold hsame
    · exact absurd hsame (Nat.ne_of_gt hlt)

/-- The call of the listener keeps the invariant. -/
theorem listener (h : Watches size noted served a) :
    ∃ b, handlers.callListener a = .ok () b ∧ Watches size noted served b :=
  callListener_keeps (fun _ stats ha => ha.count stats)
    (fun _ level message ha => ha.log level message)
    (fun _ _ _ ha haccept => ha.refused haccept) (fun _ _ _ _ ha haccept => ha.admitted haccept) h

/-! ## Calls -/

/-- A turn does not change what the set is asked for. -/
theorem asks_kept {t : Turn} (h : Watches size noted served a)
    (hget : a.server.connections.get? fd = some c) (hkeeps : Turn.Keeps ⟨c, a.data, h'⟩ t) :
    a.server.polled.interest? fd = some (interestFor (t.connection.status &&& watchMask)) := by
  rw [h.asks fd c hget]
  obtain hsame | hmarked := hkeeps.status
  · rw [hsame]
  · rw [hmarked, marked_masked]

/-- The call for a noted connection comes to one of the two ends. -/
theorem calls (h : Watches size noted served a) (hr : r ∈ noted)
    (hget : a.server.connections.get? r.fd = some c) (hid : c.id = r.id) :
    ∃ b, handlers.call c r a = .ok () b ∧ Calls size a r c b := by
  obtain ⟨_, htruthful⟩ := h.echoes.truthful r hr
  obtain ⟨hfd, _⟩ := h.echoes.live r.fd c hget
  show ∃ b, Echo.onConnection r.fd r.events (a.traced s!"dispatch fd {r.fd} {r.events.inspect}")
    = .ok () b ∧ _
  -- which message is traced does not matter
  generalize s!"dispatch fd {r.fd} {r.events.inspect}" = message
  have hkernel : (a.traced message).host.kernel = a.host.kernel := rfl
  have hevents : ∀ s, (a.traced message).host.kernel.stream? r.fd = some s →
      r.events.isClosed = true →
      s.fault ≠ .intact := fun s hs hclosed => htruthful c s hget hid hs hclosed
  obtain ⟨i, s, s', count, hjoins, hcarries, hwent, _, _⟩ :=
    (h.echoes.traced message).turn_went hget hevents
  have hkeeps := Turn.serve_keeps ⟨c, a.data, (a.traced message).host⟩ r.events
  rcases hserve : (⟨c, a.data, (a.traced message).host⟩ : Turn).serve r.events with ⟨kept, t⟩
  have hwent : Turn.Went size i s ⟨c, a.data, (a.traced message).host⟩ count s' t := by
    have ht : ((⟨c, a.data, (a.traced message).host⟩ : Turn).serve r.events).2 = t :=
      congrArg Prod.snd hserve
    exact ht ▸ hwent
  rw [hserve] at hkeeps
  have hjoins : a.host.Joins r.fd i s := ⟨hjoins.index, hjoins.stream⟩
  cases kept with
  | true =>
      have hwellFormed := h.reachable.paired.wellFormed
      obtain ⟨polled, hcall, hadjusts⟩ :=
        onConnection_kept (a := a.traced message) hget hserve hwellFormed
        (PollSet.mem_descriptors_of_interest (h.asks r.fd c hget))
      have hasks := hadjusts.asks hwellFormed (h.asks_kept hget hkeeps)
      exact ⟨_, hcall, .kept hkernel hjoins hcarries hserve hwent hasks⟩
  | false =>
      obtain ⟨host, hcall, hclose, _⟩ := onConnection_closed (a := a.traced message) hget hserve
      have hclosed : host.kernel = t.host.kernel.close r.fd := by
        rw [hclose, ← hfd]
        exact congrArg (fun socket : Socket => t.host.kernel.close socket.fd) hkeeps.socket
      exact ⟨_, hcall, .closed hkernel hjoins hcarries hserve hwent hclosed⟩

/-- After its call a connection has been served. -/
theorem call (h : Watches size noted served a) (hr : r ∈ noted)
    (hget : a.server.connections.get? r.fd = some c) (hid : c.id = r.id) :
    ∃ b, handlers.call c r a = .ok () b ∧ Calls size a r c b
      ∧ Watches size noted (r.id :: served) b := by
  obtain ⟨b, hcall, hcalls⟩ := h.calls hr hget hid
  obtain ⟨_, hok, hechoes, _⟩ := h.echoes.call hr hget hid
  cases hcall.symm.trans hok
  have hpaired := h.reachable.paired
  have hseat := Server.mem_roster_of_get? hget
  have hnext : b.server.nextId = a.server.nextId := by cases hcalls <;> rfl
  have hlistener : b.server.listener = a.server.listener := by cases hcalls <;> rfl
  refine ⟨b, hcall, hcalls, h.reachable.of_reaches (handlers_operate.move.call hcall), hechoes, ?_,
    ?_, ?_, ?_⟩
  · intro l hl
    rw [hlistener] at hl
    exact hcalls.listens (h.listens l hl) (hpaired.key_ne_listener hl hseat).symm
  · intro fd c' hlive
    obtain ⟨_, hold, hsame⟩ | ⟨_, _, _, hasked⟩ := hcalls.live_cases hpaired.wellFormed hget hlive
    · exact hsame.trans (h.asks fd c' hold)
    · exact hasked
  · intro fd c' hlive
    obtain ⟨_, hold, _⟩ | ⟨_, _, htuned, _⟩ := hcalls.live_cases hpaired.wellFormed hget hlive
    · exact h.state fd c' hold
    · exact .inl htuned
  · intro id hserved
    rw [hnext]
    obtain rfl | hserved := List.mem_cons.mp hserved
    · refine ⟨hid ▸ (h.echoes.live r.fd c hget).2.1, ?_⟩
      intro fd c' hlive hsame
      obtain ⟨hne, hold, _⟩ | ⟨_, _, htuned, _⟩ := hcalls.live_cases hpaired.wellFormed hget hlive
      · -- nobody else has the id of the connection
        have hunique := h.reachable.identified.seat_eq (Server.mem_roster_of_get? hold) hseat
          (hsame.trans hid.symm)
        exact absurd (congrArg Seat.key hunique) hne
      · exact htuned
    · obtain ⟨hlt, htuned⟩ := h.served id hserved
      refine ⟨hlt, ?_⟩
      intro fd c' hlive hsame
      obtain ⟨_, hold, _⟩ | ⟨_, _, htuned', _⟩ := hcalls.live_cases hpaired.wellFormed hget hlive
      · exact htuned fd c' hold hsame
      · exact htuned'

/-- Either keeps the invariant. -/
theorem call_keeps :
    ∀ r ∈ noted, ∀ (a : Service) (c : Connection Unit), Watches size noted served a →
    a.server.connections.get? r.fd = some c → c.id = r.id →
      ∃ b, handlers.call c r a = .ok () b ∧ Watches size noted served b := by
  intro r hr a c ha hget hid
  obtain ⟨b, hok, _, hb⟩ := ha.call hr hget hid
  exact ⟨b, hok, hb.of_subset (List.Subset.refl _) (List.subset_cons_self _ _)⟩

/-! ## Rounds -/

theorem noting (h : Watches size noted served a) (ready : List Ready) :
    Watches size noted served (a.noting ready) :=
  h.quiet (h.reachable.of_moment (.note a ready)) (h.echoes.noting ready) h.listens rfl
    rfl fun _ => rfl

/-- A whole round keeps it, and so do its first turns. -/
theorem round {outcome : Outcome Unit Unit Stats (Except Error Nat)}
    (h : Watches size noted served w) (hround : Round handlers n noted w turns outcome) :
    (∀ t ∈ turns, Watches size noted served t.before)
      ∧ ∃ b, outcome = .ok (.ok n) b ∧ Watches size noted served b :=
  hround.keeps (fun _ ready ha => ha.noting ready) (fun _ ha => ha.listener) call_keeps h

/-- A wait keeps it: nobody has been served yet, and the results are all new. -/
theorem wait {noted' : List Ready} {answer : Except Error Nat} (h : Watches size noted served a)
    (hwait : a.server.wait a.host = (answer, s, h'))
    (hechoes : Echoes size [] noted' { a with server := s, host := h' }) :
    Watches size noted' served { a with server := s, host := h' } := by
  have hreach := h.reachable.of_moment (.of_wait hwait)
  obtain ⟨polled, rfl, hpolled, hkernel⟩ := Server.wait_cases hwait
  refine h.quiet hreach hechoes ?_ rfl rfl ?_
  · intro l hl
    exact (h.listens l hl).alike (.of_files (by rw [hkernel]) (by rw [hkernel]))
  · intro fd
    obtain rfl | ⟨results, rfl⟩ := hpolled
    · rfl
    · exact PollSet.interest?_record _ results fd

/-- What a wait notes does not change what is watched. -/
theorem note (h : Watches size [] served a) (hwait : a.server.wait a.host = (.ok n, s, h'))
    (hnoted : List.Forall₂ s.Notes s.readyEntries noted) :
    Watches size noted served { a with server := s, host := h' } :=
  h.wait hwait (h.echoes.note hwait hnoted)

/-- A poll returns, keeps the invariant and leaves nobody noted. -/
theorem poll (h : Watches size [] served a) :
    ∃ answer b, Server.poll handlers a = .ok answer b ∧ Watches size [] served b := by
  cases hbound : a.server.isBound with
  | false => exact ⟨_, a, Server.poll_of_unbound hbound, h⟩
  | true =>
      rcases hwait : a.server.wait a.host with ⟨answer, s, h'⟩
      obtain hwaited | ⟨n, noted, turns, rfl, _, hnoted, hround⟩ :=
        h.reachable.poll_cases hbound handlers_operate hwait
      · exact ⟨_, _, hwaited, h.wait hwait (h.echoes.wait hwait)⟩
      · obtain ⟨_, b, hok, hb⟩ := (h.note hwait hnoted).round hround
        exact ⟨_, b, hok, hb.of_subset (List.nil_subset _) (List.Subset.refl _)⟩

/-! ## Between rounds -/

/-- Whatever happens between polls keeps it. -/
theorem happens (h : Watches size [] served a) (hnext : Happens a b) :
    Watches size [] served b := by
  have hreach := h.reachable.of_reaches hnext.reaches
  have hechoes := h.echoes.happens h.reachable hnext
  -- clients, limits and timeouts leave table and set alone
  cases hnext with
  | connect address =>
      refine h.quiet hreach hechoes ?_ rfl rfl fun _ => rfl
      intro l hl
      have hlistens := h.listens l hl
      obtain hsame | ⟨listener, hconnects⟩ := a.host.kernel.connect_cases address
      · show Kernel.Listens (a.host.kernel.connect address).2 l.fd
        rwa [hsame]
      · exact hlistens.connect hconnects
  | client _ => exact h.quiet hreach hechoes h.listens rfl rfl fun _ => rfl
  | host hfiles hstreams =>
      refine h.quiet hreach hechoes ?_ rfl rfl fun _ => rfl
      intro l hl
      exact (h.listens l hl).alike (.of_files hfiles hstreams)
  | timeout timeout => exact h.quiet hreach hechoes h.listens rfl rfl fun _ => rfl
  | round =>
      obtain ⟨answer, b, hok, hb⟩ := h.poll
      rwa [after_eq_of_ok hok]
  | cleanup =>
      have hserver : (after (run fun s h => ((), s.cleanup h)) a).server
          = { a.server with
            connections := .empty, polled := a.server.polled.clear, listener := none } :=
        a.server.cleanup_server a.host
      -- nobody is left that could watch anything
      have hempty : ∀ fd, (after (run fun s h => ((), s.cleanup h)) a).server.connections.get?
          fd = none := by
        intro fd
        rw [hserver]
        rfl
      refine ⟨hreach, hechoes, ?_, ?_, ?_, ?_⟩
      · intro l hl
        rw [hserver] at hl
        cases hl
      · intro fd c hget
        cases (hempty fd).symm.trans hget
      · intro fd c hget
        cases (hempty fd).symm.trans hget
      · intro id hid
        rw [hserver]
        exact ⟨(h.served id hid).1, fun fd c hget => by cases hget⟩

/-- By induction it holds ever after. -/
theorem later (h : Watches size [] served a) (hlater : Later a b) : Watches size [] served b := by
  induction hlater with
  | refl => exact h
  | tail _ hlast ih => exact ih.happens hlast

end Watches

/-! ## Runs -/

/-- It holds in every run of an echo server. -/
theorem Running.watches (h : Running size a) : Watches size [] [] a := by
  induction h with
  | @start address config h h' s hsize hfiles hstreams hbind =>
      have hstart : Running size ⟨s, h', .zero⟩ := .start hsize hfiles hstreams hbind
      have hfresh := Server.bind_fresh hbind
      have hempty : ∀ fd, s.connections.get? fd = none := by
        intro fd
        rw [hfresh.connections]
        rfl
      refine ⟨hstart.reachable, hstart.echoes, ?_, ?_, ?_, fun id hid => by cases hid⟩
      · -- the only file that is open is that of the listener
        obtain ⟨_, fd, bound, hholds⟩ := Server.bind_holds hstreams hfiles hbind
        obtain ⟨nonblocking, hfile⟩ := hholds.files
        obtain ⟨l', hl', _, hopen⟩ := hfresh.listener
        intro l hl
        obtain rfl := Option.some.inj (hl'.symm.trans hl)
        rw [Host.openDescriptors, Kernel.openDescriptors, hfile] at hopen
        obtain rfl := List.mem_singleton.mp hopen
        refine ⟨bound, [], ?_⟩
        show (h'.kernel.files.lookup l'.fd).map OpenFile.handle = _
        rw [hfile, List.lookup_cons_self]
        rfl
      · intro fd c hget
        cases (hempty fd).symm.trans hget
      · intro fd c hget
        cases (hempty fd).symm.trans hget
  | next _ hnext ih => exact ih.happens hnext

/-- The handler of the connection with the id was called in a round that came before. -/
def Attended (size : Nat) (a : Service) (id : Nat) : Prop :=
  ∃ x turns t c, Running size x ∧ RoundTurns x turns ∧ t ∈ turns
    ∧ t.before.server.connections.get? t.ready.fd = some c ∧ c.id = t.ready.id ∧ t.ready.id = id
    ∧ Later (after (Server.poll handlers) x) a

/-- From then on the connection is among those served. -/
theorem Attended.watches (h : Attended size a id) : Watches size [] [id] a := by
  obtain ⟨x, turns, t, c, hrun, ⟨_, _, _, noted, _, hwait, _, hnoted, hround⟩, ht, hget, hid,
    rfl, hlater⟩ := h
  refine Watches.later ?_ hlater
  have hwoken := hrun.watches.note hwait hnoted
  obtain ⟨hbefore, _, hpolled, _⟩ := hwoken.round hround
  rw [hpolled] at hround
  cases hround with
  | finished _ hsweep =>
      have hmem : t.ready ∈ noted := hsweep.turns_ready.1.subset (List.mem_map_of_mem ht)
      obtain ⟨b, hcall, _, hb⟩ := (hbefore t ht).call hmem hget hid
      obtain ⟨_, rest, _, hrest, hsweep'⟩ := hsweep.rest ht hget hid hcall
      obtain ⟨_, d, hd, hswept⟩ := hsweep'.keeps hrest Watches.call_keeps hb
      cases hd
      rw [after_eq_of_ok hpolled]
      exact (hswept.noting noted).of_subset (List.nil_subset _) (List.Subset.refl _)

end EventLoop.Echo
