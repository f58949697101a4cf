import EventLoop.Echo.Service
import EventLoop.Proofs.PollSet.Interests
import EventLoop.Proofs.Server.Sessions

/-! # What calls of an echo server come to

    What a handler leaves behind, said in full. A connection that is kept after its turn
    is as the turn left it, watches what it should (`tuned`), and the set asks for just
    that (`onConnection_kept`); one that is given up is gone from table and set
    (`onConnection_closed`).

    The loop that accepts clients has one induction, `acceptWithin_keeps`: it keeps what
    a refused and what an admitted client keep. -/

namespace EventLoop.Echo

open Application

variable {a : Service} {s : Server Unit Unit} {fd : Descriptor} {c c' : Connection Unit}
  {events : EventMask} {t : Turn}

/-! ## Watching -/

/-- The directions that a connection should watch as it is. -/
def wanted (c : Connection Unit) : Status :=
  wantedWatch c.status c.input.isFull (c.hasPendingOutput || !c.input.isEmpty)

/-- The connection once it watches them. -/
def tuned (c : Connection Unit) : Connection Unit :=
  { c with status := (c.status &&& ~~~watchMask) ||| wanted c }

/-- Reading is wanted while there is room and no end in sight, and writing while there is a
    backlog. -/
theorem wantedWatch_eq (status : Status) (inputFull backlog : Bool) :
    wantedWatch status inputFull backlog
      = (if !has status closing && !inputFull then watchRead else 0)
        ||| (if backlog then watchWrite else 0) := rfl

/-- Reading is wanted unless the connection is to be closed or its input is full. -/
theorem has_watchRead_wanted (status : Status) (inputFull backlog : Bool) :
    has (wantedWatch status inputFull backlog) watchRead = (!has status closing && !inputFull) := by
  rw [wantedWatch_eq]
  cases (!has status closing && !inputFull) <;> cases backlog <;> rfl

theorem has_watchWrite_wanted (status : Status) (inputFull backlog : Bool) :
    has (wantedWatch status inputFull backlog) watchWrite = backlog := by
  rw [wantedWatch_eq]
  cases (!has status closing && !inputFull) <;> cases backlog <;> rfl

/-- The set is asked about reading where that is watched. -/
theorem contains_readable_interestFor (watch : Status) :
    (interestFor watch).contains .readable = has watch watchRead := by
  rw [interestFor]
  cases has watch watchRead <;> cases has watch watchWrite <;> rfl

theorem contains_writable_interestFor (watch : Status) :
    (interestFor watch).contains .writable = has watch watchWrite := by
  rw [interestFor]
  cases has watch watchRead <;> cases has watch watchWrite <;> rfl

/-- Nothing but directions is wanted. -/
theorem wanted_masked (c : Connection Unit) : wanted c &&& watchMask = wanted c := by
  rw [wanted, wantedWatch_eq]
  split <;> split <;> rfl

/-- A tuned connection watches what it should. -/
theorem tuned_masked (c : Connection Unit) : (tuned c).status &&& watchMask = wanted c := by
  have hcleared : (c.status &&& ~~~watchMask) &&& watchMask = 0 := by
    rw [BitVec.and_assoc, BitVec.and_comm (~~~watchMask), BitVec.and_not_self]
    exact BitVec.and_zero
  show ((c.status &&& ~~~watchMask) ||| wanted c) &&& watchMask = wanted c
  rw [BitVec.and_comm, BitVec.and_or_distrib_left, BitVec.and_comm watchMask,
    BitVec.and_comm watchMask, hcleared, wanted_masked]
  exact BitVec.zero_or

/-- The directions that are watched are apart from the mark. -/
theorem has_closing_watch (status old : Status) (inputFull backlog : Bool) :
    has (old &&& ~~~watchMask ||| wantedWatch status inputFull backlog) closing
      = has old closing := by
  have hwanted : wantedWatch status inputFull backlog &&& closing = 0 := by
    rw [wantedWatch]
    split <;> split <;> rfl
  have hbits : (old &&& ~~~watchMask ||| wantedWatch status inputFull backlog) &&& closing = old
      &&& closing := by
    rw [BitVec.and_comm, BitVec.and_or_distrib_left, BitVec.and_comm closing,
      BitVec.and_comm closing, hwanted, BitVec.and_assoc]
    exact BitVec.or_zero
  rw [has, has, hbits]

theorem has_closing_tuned (c : Connection Unit) :
    has (tuned c).status closing = has c.status closing :=
  has_closing_watch c.status c.status c.input.isFull (c.hasPendingOutput || !c.input.isEmpty)

/-- What it should watch does not depend on what it watches. -/
theorem wanted_tuned (c : Connection Unit) : wanted (tuned c) = wanted c := by
  have hclosing := has_closing_tuned c
  show wantedWatch (tuned c).status c.input.isFull _ = wantedWatch c.status c.input.isFull _
  rw [wantedWatch_eq, hclosing, wantedWatch_eq]
  rfl

/-- A connection that watches what it should is tuned already. -/
theorem tuned_of_same (h : c.status &&& watchMask = wanted c) : tuned c = c := by
  have hstatus : (c.status &&& ~~~watchMask) ||| wanted c = c.status := by
    rw [← h, ← BitVec.and_or_distrib_left, BitVec.or_comm, BitVec.or_not_self]
    exact BitVec.and_allOnes
  rw [tuned, hstatus]

/-! ## Connections -/

/-- The set after the adjustment of a connection: it is asked anew only where the directions
    change. -/
inductive Adjusts (p : PollSet) (fd : Descriptor) (c : Connection Unit) : PollSet → Prop
  | same (h : wanted c = c.status &&& watchMask) : Adjusts p fd c p
  | anew {p' : PollSet} (h : wanted c ≠ c.status &&& watchMask)
      (hadd : p.add fd (interestFor (wanted c)) = .ok p') :
      Adjusts p fd c p'

/-- It asks for what the connection should watch. -/
theorem Adjusts.asks {p p' : PollSet} (h : Adjusts p fd c p') (hp : p.WellFormed)
    (hinterest : p.interest? fd = some (interestFor (c.status &&& watchMask))) :
    p.Asks fd (interestFor (wanted c)) p' := by
  cases h with
  | same hsame => exact PollSet.asks_refl hp (hsame ▸ hinterest)
  | anew _ hadd => exact PollSet.asks_of_add hp hadd

/-- After its turn a connection watches what it should, and nobody else is touched. -/
theorem adjust_eq (h : Host) (stats : Stats) (hget : s.connections.get? fd = some c)
    (hp : s.polled.WellFormed) (hwatched : fd ∈ s.polled.descriptors) :
    ∃ polled, Echo.adjust ⟨fd⟩ ⟨s.onConnection fd fun _ => c', h, stats⟩
        = .ok () ⟨{ s with
          polled := polled, connections := s.connections.modify fd fun _ => tuned c' }, h, stats⟩
      ∧ Adjusts s.polled fd c' polled := by
  have hfound : (s.connections.modify fd fun _ => c').get? fd = some c' := by
    rw [DescriptorTable.get?_modify_self, hget]
    rfl
  rw [Echo.adjust, bind_of_ok (Session.connection_of_some hfound)]
  show ∃ polled, (if wanted c' ≠ c'.status &&& watchMask then _ else _ : Activity Unit) _ = _ ∧ _
  by_cases hsame : wanted c' = c'.status &&& watchMask
  · rw [if_neg (not_not_intro hsame)]
    refine ⟨s.polled, ?_, .same hsame⟩
    rw [tuned_of_same hsame.symm]
    rfl
  · rw [if_pos hsame]
    -- whoever is asked about can always be asked about something else
    obtain ⟨polled, hadd, _⟩ := PollSet.add_of_mem (interestFor (wanted c')) hp hwatched
    have hset : (s.onConnection fd fun _ => c').setInterest fd (interestFor (wanted c'))
        = .ok { s.onConnection fd (fun _ => c') with polled := polled } := by
      have hcontains : (s.connections.modify fd fun _ => c').contains fd = true := by
        rw [DescriptorTable.contains, hfound]
        rfl
      show (if (s.connections.modify fd fun _ => c').contains fd = true then _ else _) = _
      rw [if_pos hcontains]
      show (s.polled.add fd _).map _ = _
      rw [hadd]
      rfl
    have hmodify : (s.connections.modify fd fun _ => c').modify fd
        (fun c => { c with status := (c.status &&& ~~~watchMask) ||| wanted c' })
          = s.connections.modify fd fun _ => tuned c' :=
      DescriptorTable.modify_modify _ _ _ _
    refine ⟨polled, ?_, .anew hsame hadd⟩
    rw [bind_of_ok (Session.setInterest_eq hset)]
    refine (Session.update_of_some _ hfound).trans ?_
    show EStateM.Result.ok () (⟨{ s with
        polled := polled
        connections := (s.connections.modify fd fun _ => c').modify fd
          fun c => { c with status := (c.status &&& ~~~watchMask) ||| wanted c' } }, h, stats⟩ :
            Service) = _
    rw [hmodify]

/-- A turn reads its connection, the counters and the host, and writes back these three. -/
theorem takeTurn_eq (hget : a.server.connections.get? fd = some c) (events : EventMask) :
    takeTurn ⟨fd⟩ events a = .ok ((⟨c, a.data, a.host⟩ : Turn).serve events).1
      ⟨a.server.onConnection fd fun _ => ((⟨c, a.data, a.host⟩ : Turn).serve events).2.connection,
        ((⟨c, a.data, a.host⟩ : Turn).serve events).2.host,
        ((⟨c, a.data, a.host⟩ : Turn).serve events).2.stats⟩ := by
  rw [takeTurn, bind_of_ok (Session.connection_of_some hget)]
  rfl

/-- A connection that is kept. -/
theorem onConnection_kept (hget : a.server.connections.get? fd = some c)
    (hserve : (⟨c, a.data, a.host⟩ : Turn).serve events = (true, t))
    (hp : a.server.polled.WellFormed) (hwatched : fd ∈ a.server.polled.descriptors) :
    ∃ polled, Echo.onConnection fd events a
        = .ok () ⟨{ a.server with
            polled := polled
            connections :=
              a.server.connections.modify fd fun _ => tuned t.connection }, t.host, t.stats⟩
      ∧ Adjusts a.server.polled fd t.connection polled := by
  have hturn := takeTurn_eq hget events
  rw [hserve] at hturn
  obtain ⟨polled, hadjust, hadjusts⟩ := adjust_eq t.host t.stats hget hp hwatched
  refine ⟨polled, ?_, hadjusts⟩
  rw [Echo.onConnection, bind_of_ok hturn]
  exact hadjust

/-- A connection that is given up. -/
theorem onConnection_closed (hget : a.server.connections.get? fd = some c)
    (hserve : (⟨c, a.data, a.host⟩ : Turn).serve events = (false, t)) :
    ∃ host, Echo.onConnection fd events a
        = .ok () ⟨{ a.server with
            polled := (a.server.polled.remove fd).2
            connections := a.server.connections.erase fd }, host, { t.stats with closes :=
              t.stats.closes + 1 }⟩
      ∧ host.kernel = t.host.kernel.close t.connection.fd ∧ host.memory = t.host.memory := by
  have hturn := takeTurn_eq hget events
  rw [hserve] at hturn
  -- the turn has written the connection back before it is torn down
  have hfound : (a.server.onConnection fd fun _ => t.connection).connections.get? fd
      = some t.connection := by
    show (a.server.connections.modify fd _).get? fd = _
    rw [DescriptorTable.get?_modify_self, hget]
    rfl
  obtain ⟨host, hdisconnect, hclose⟩ :
    ∃ host, (a.server.onConnection fd fun _ => t.connection).disconnect fd t.host
      = (true, _, host) ∧ host.kernel = t.host.kernel.close t.connection.fd
      ∧ host.memory = t.host.memory :=
    ⟨_, Server.disconnect_of_live hfound t.host, rfl, rfl⟩
  refine ⟨host, ?_, hclose⟩
  rw [Echo.onConnection, bind_of_ok hturn]
  show Echo.close ⟨fd⟩ _ = _
  have hsession : (⟨fd⟩ : Session).disconnect
      (⟨a.server.onConnection fd fun _ => t.connection, t.host, t.stats⟩ : Service) = .ok true _ :=
        run_eq hdisconnect
  rw [Echo.close, bind_of_ok hsession]
  show EStateM.Result.ok () (⟨{ a.server with
      polled := (a.server.polled.remove fd).2
      connections := (a.server.connections.modify fd fun _ => t.connection).erase fd }, host,
      { t.stats with closes := t.stats.closes + 1 }⟩ : Service) = _
  rw [DescriptorTable.erase_modify]

/-! ## The listener -/

/-- A listener that is readable takes clients, one more attempt than there are clients. -/
theorem callListener_of_readable (hreadable : (a.server.polled.result 0).isReadable = true) :
    ∃ message, handlers.callListener a = Echo.acceptWithin (a.server.pending a.host + 1)
      (a.traced message) := by
  have hsome : (a.server.polled.result 0).isEmpty = false :=
    EventMask.nonempty_of_intersects hreadable
  refine ⟨s!"dispatch listener {(a.server.polled.result 0).inspect}", ?_⟩
  rw [Handlers.callListener]
  simp only [hsome]
  show Echo.onListen (a.server.polled.result 0) _ = _
  rw [Echo.onListen]
  simp only [hreadable, if_true]
  rfl

/-- One that is not takes nobody. -/
theorem callListener_of_unreadable (hreadable : (a.server.polled.result 0).isReadable = false) :
    handlers.callListener a = .ok () a ∨ ∃ message, handlers.callListener a
      = .ok () (a.traced message) := by
  rw [Handlers.callListener]
  by_cases hempty : (a.server.polled.result 0).isEmpty = true
  · refine .inl ?_
    simp only [if_pos hempty]
  · simp only [if_neg hempty]
    refine .inr ⟨s!"dispatch listener {(a.server.polled.result 0).inspect}", ?_⟩
    show Echo.onListen (a.server.polled.result 0) _ = _
    rw [Echo.onListen, hreadable]
    rfl

section

variable {P : Service → Prop}
  (hdata : ∀ (a : Service) (stats : Stats), P a → P { a with data := stats })
  (hlog : ∀ (a : Service) (level : Log.Level) (message : String),
    P a → P { a with host := a.host.log level message })

include hdata hlog

/-- One client more: what the first attempt leaves the others have to keep. -/
theorem acceptWithin_succ {limit : Nat}
    (hrest : ∀ b, P b → ∃ c, Echo.acceptWithin limit b = .ok () c ∧ P c)
    (hrefused : ∀ e h, a.server.accept () a.host = (.error e, a.server, h) → P { a with host := h })
    (hadmitted : ∀ fd s h, a.server.accept () a.host = (.ok fd, s, h) →
      P { a with server := s.onConnection fd fun c => { c with status := watchMask }, host := h }) :
    ∃ b, Echo.acceptWithin (limit + 1) a = .ok () b ∧ P b := by
  rw [Echo.acceptWithin]
  obtain ⟨e, h', haccept, _⟩ | ⟨fd, s', h', haccept, _⟩ := a.server.accept_cases () a.host
  · rw [bind_of_ok (run_eq haccept)]
    have hfailed := hrefused e h' haccept
    cases e with
    | capacityExceeded slots =>
        exact hrest _ (hdata _ { a.data with rejected := a.data.rejected + 1 } hfailed)
    | _ =>
        -- any other failure ends the loop, with or without a mark in the counters
        dsimp only
        split
        · split
          · exact ⟨_, rfl, hdata _ _ (hlog _ _ _ hfailed)⟩
          · exact ⟨_, rfl, hdata _ { a.data with errors := a.data.errors + 1 } hfailed⟩
        · exact ⟨_, rfl, hfailed⟩
  · rw [bind_of_ok (run_eq haccept)]
    exact hrest _ (hdata _ { a.data with accepts := a.data.accepts + 1 }
      (hadmitted fd s' h' haccept))

variable
  (hrefused : ∀ (a : Service) (e : Error) (h : Host),
    P a → a.server.accept () a.host = (.error e, a.server, h) →
    P { a with host := h })
  (hadmitted : ∀ (a : Service) (fd : Descriptor) (s : Server Unit Unit) (h : Host), P a →
    a.server.accept () a.host = (.ok fd, s, h) →
      P { a with server := s.onConnection fd fun c => { c with status := watchMask }, host := h })

include hrefused hadmitted

/-- What a refused client and an admitted one keep, the loop keeps. -/
theorem acceptWithin_keeps (limit : Nat) (ha : P a) :
    ∃ b, Echo.acceptWithin limit a = .ok () b ∧ P b := by
  induction limit generalizing a with
  | zero => exact ⟨a, rfl, ha⟩
  | succ limit ih =>
      exact acceptWithin_succ hdata hlog (fun _ hb => ih hb)
        (fun e h haccept => hrefused a e h ha haccept)
        fun fd s h haccept => hadmitted a fd s h ha haccept

/-- And so does the call of the listener's handler. -/
theorem callListener_keeps (ha : P a) : ∃ b, handlers.callListener a = .ok () b ∧ P b := by
  cases hreadable : (a.server.polled.result 0).isReadable with
  | true =>
      obtain ⟨message, hcall⟩ := callListener_of_readable hreadable
      rw [hcall]
      exact acceptWithin_keeps hdata hlog hrefused hadmitted _ (hlog a _ _ ha)
  | false =>
      obtain hcall | ⟨message, hcall⟩ := callListener_of_unreadable hreadable
      · exact ⟨a, hcall, ha⟩
      · exact ⟨_, hcall, hlog a .trace message ha⟩

end

end EventLoop.Echo
