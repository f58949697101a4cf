import EventLoop.Proofs.Server.Dispatch

/-! # What a session holds on to

    A session is handed to the handler of a connection and means that connection.
    It carries its descriptor, though, and not its id.

    * As long as nobody else has the descriptor the session is `Faithful`: it tells
      whether the connection is live, gives that connection or panics, and leaves
      all other connections alone.
    * Once the handler has removed the connection and accepted another one under its
      descriptor, the session is `Misled`: it takes the new connection for its own,
      finds it connected, and changes it and tears it down.
    * `session_faithful_iff`: these are the two cases, and what tells them apart is
      whether the connection under the descriptor was accepted after the call. -/

namespace EventLoop

open Application

variable {L C D : Type} {a b w : Application L C D} {handlers : Handlers L C D}

/-! ## The operations of a session -/

namespace Session

/-- A session is connected when the table has its descriptor, under whatever id. -/
theorem isConnected_eq (session : Session) (b : Application L C D) :
    session.isConnected b = .ok (b.server.connections.contains session.fd) b := rfl

/-- It gives the connection that is found under its descriptor now. -/
theorem connection_of_some {session : Session} {c : Connection C}
    (hget : b.server.connections.get? session.fd = some c) : session.connection b = .ok c b := by
  rw [connection, get_bind, hget]
  rfl

theorem connection_of_none {session : Session}
    (hget : b.server.connections.get? session.fd = none) :
    session.connection b = .error (.sessionEnded session.fd) b := by
  rw [connection, get_bind, hget]
  rfl

theorem update_of_some {session : Session} {c : Connection C} (f : Connection C → Connection C)
    (hget : b.server.connections.get? session.fd = some c) :
    session.update f b = .ok () { b with server := b.server.onConnection session.fd f } := by
  rw [update, bind_of_ok (connection_of_some hget)]
  rfl

theorem after_update_of_some {session : Session} {c : Connection C}
    (f : Connection C → Connection C) (hget : b.server.connections.get? session.fd = some c) :
    after (session.update f) b = { b with server := b.server.onConnection session.fd f } :=
  after_eq_of_ok (update_of_some f hget)

theorem setInterest_eq {session : Session} {interest : EventMask} {r : Except Error (Server L C)}
    (hset : b.server.setInterest session.fd interest = r) :
    session.setInterest interest b
      = .ok (r.map fun _ => ()) { b with server := r.toOption.getD b.server } := by
  subst hset
  rw [setInterest]
  refine run_eq ?_
  cases b.server.setInterest session.fd interest <;> rfl

theorem after_update_of_none {session : Session} (f : Connection C → Connection C)
    (hget : b.server.connections.get? session.fd = none) : after (session.update f) b = b := by
  rw [update, after_eq_of_error (bind_of_error (connection_of_none hget))]

end Session

/-! ## The operations are steps -/

namespace Session

theorem connection_operates (session : Session) :
    Operates (session.connection (L := L) (C := C) (D := D)) := by
  intro a
  cases hget : a.server.connections.get? session.fd with
  | none =>
      rw [after_eq_of_error (connection_of_none hget)]
      exact .refl
  | some c =>
      rw [after_eq_of_ok (connection_of_some hget)]
      exact .refl

/-- Changing it, but not its id or its socket, is a step. -/
theorem update_operates (session : Session) {f : Connection C → Connection C}
    (hf : ∀ c, (f c).id = c.id ∧ (f c).socket = c.socket) :
    Operates (session.update f : Run L C D Unit) := by
  intro a
  cases hget : a.server.connections.get? session.fd with
  | none =>
      rw [after_update_of_none f hget]
      exact .refl
  | some c =>
      rw [after_update_of_some f hget]
      exact .single (.use a (fun c _ => hf c) fun _ hfd => hfd)

theorem setInterest_operates (session : Session) (interest : EventMask) :
    Operates (session.setInterest interest : Run L C D (Except Error Unit)) :=
  operates_of_step fun a => .setInterest a session.fd interest

theorem disconnect_operates (session : Session) : Operates (session.disconnect : Run L C D Bool) :=
  operates_of_step fun a => .disconnect a session.fd

end Session

/-- The connection under a descriptor and what is asked about it are as before. -/
def Untouched (b b' : Application L C D) (fd : Descriptor) : Prop :=
  b'.server.connections.get? fd = b.server.connections.get? fd
    ∧ ∀ e ∈ b.server.polled.toList, e.fd = fd → e ∈ b'.server.polled.toList

theorem untouched_refl (b : Application L C D) (fd : Descriptor) : Untouched b b fd :=
  ⟨rfl, fun _ he _ => he⟩

namespace Session

variable {session : Session} {other : Descriptor}

/-- Ending a session leaves other descriptors alone. -/
theorem disconnect_untouched (hpaired : Paired b) (hne : other ≠ session.fd) :
    Untouched b (after session.disconnect b) other := by
  rw [disconnect, after_run]
  obtain ⟨_, h', hdisconnect, _⟩ | ⟨c, _, h', hdisconnect, _⟩ :=
    b.server.disconnect_cases session.fd b.host
  · rw [hdisconnect]
    exact untouched_refl b other
  · rw [hdisconnect]
    refine ⟨DescriptorTable.get?_erase_of_ne _ hne, ?_⟩
    intro e he hfd
    exact PollSet.mem_toList_remove hpaired.wellFormed he (hfd ▸ hne)

/-- Interests set through a session are those of its own descriptor. -/
theorem setInterest_untouched (hpaired : Paired b) (interest : EventMask)
    (hne : other ≠ session.fd) :
    Untouched b (after (session.setInterest interest) b) other := by
  obtain ⟨e, _, hafter⟩ | ⟨s', hset, hafter⟩ := after_setInterest b session.fd interest
  · rw [hafter]
    exact untouched_refl b other
  · obtain ⟨_, polled, hadd, rfl⟩ := Server.setInterest_cases hset
    rw [hafter]
    exact ⟨rfl, fun e he hfd => PollSet.mem_toList_add hpaired.wellFormed hadd he (hfd ▸ hne)⟩

/-- Changes made through a session are those of its own descriptor. -/
theorem update_untouched (f : Connection C → Connection C) (hne : other ≠ session.fd) :
    Untouched b (after (session.update f) b) other := by
  cases hget : b.server.connections.get? session.fd with
  | none =>
      rw [after_update_of_none f hget]
      exact untouched_refl b other
  | some c =>
      rw [after_update_of_some f hget]
      exact ⟨DescriptorTable.get?_modify_of_ne _ f hne, fun _ he _ => he⟩

/-! ## Faithful and misled sessions -/

/-- The session means the connection with the id: it tells whether that one is live,
    gives it or panics, and no other connection is touched through it. -/
structure Faithful (session : Session) (id : Nat) (b : Application L C D) : Prop where
  connected : ∃ answer, session.isConnected b = .ok answer b ∧ (answer = true ↔ b.server.Live id)
  held : b.server.Live id → ∃ c, session.connection b = .ok c b ∧ c.id = id
  ended : ¬ b.server.Live id → session.connection b = .error (.sessionEnded session.fd) b
  spared : ∀ fd c, b.server.connections.get? fd = some c → c.id ≠ id →
    Untouched b (after session.disconnect b) fd
      ∧ (∀ interest, Untouched b (after (session.setInterest interest) b) fd)
      ∧ ∀ f, Untouched b (after (session.update f) b) fd

/-- The connection with the id is gone, and the session takes another connection for
    it: in what it tells, gives, changes and tears down. -/
structure Misled (session : Session) (id : Nat) (c : Connection C) (b : Application L C D) :
    Prop where
  gone : ¬ b.server.Live id
  other : c.id ≠ id
  connected : session.isConnected b = .ok true b
  found : session.connection b = .ok c b
  changed : ∀ f, (after (session.update f) b).server.connections.get? session.fd = some (f c)
  tornDown : (after session.disconnect b).server.connections.get? session.fd = none
  retuned : ∀ interest,
    ⟨session.fd, interest, .empty⟩ ∈ (after (session.setInterest interest) b).server.polled.toList

/-- With nobody else under the descriptor the session is faithful. -/
theorem faithful_of_own {id : Nat} (hpaired : Paired b)
    (hlive : b.server.Live id ↔ ∃ c, b.server.connections.get? session.fd = some c ∧ c.id = id)
    (hown : ∀ c, b.server.connections.get? session.fd = some c → c.id = id) :
    session.Faithful id b where
  connected := by
    refine ⟨_, session.isConnected_eq b, ?_⟩
    rw [hlive, DescriptorTable.contains, Option.isSome_iff_exists]
    constructor
    · rintro ⟨c, hget⟩
      exact ⟨c, hget, hown c hget⟩
    · rintro ⟨c, hget, _⟩
      exact ⟨c, hget⟩
  held := by
    intro h
    obtain ⟨c, hget, hid⟩ := hlive.mp h
    exact ⟨c, connection_of_some hget, hid⟩
  ended := by
    intro hgone
    refine connection_of_none ?_
    cases hget : b.server.connections.get? session.fd with
    | none => rfl
    | some c => exact absurd (hlive.mpr ⟨c, hget, hown c hget⟩) hgone
  spared := by
    intro fd c hget hid
    have hne : fd ≠ session.fd := fun hfd => hid (hown c (hfd ▸ hget))
    exact ⟨disconnect_untouched hpaired hne,
      fun interest => setInterest_untouched hpaired interest hne, fun f => update_untouched f hne⟩

/-- With another connection under the descriptor the session is misled. -/
theorem misled_of_other {id : Nat} {c : Connection C} (hpaired : Paired b)
    (hlive : b.server.Live id ↔ ∃ c, b.server.connections.get? session.fd = some c ∧ c.id = id)
    (hget : b.server.connections.get? session.fd = some c) (hother : c.id ≠ id) :
    session.Misled id c b where
  gone := by
    intro h
    obtain ⟨c', hget', hid⟩ := hlive.mp h
    obtain rfl := Option.some.inj (hget.symm.trans hget')
    exact hother hid
  other := hother
  connected := by
    rw [isConnected_eq, DescriptorTable.contains, hget]
    rfl
  found := connection_of_some hget
  changed := by
    intro f
    rw [after_update_of_some f hget]
    show (b.server.connections.modify session.fd f).get? session.fd = _
    rw [DescriptorTable.get?_modify_self, hget]
    rfl
  tornDown := by
    rw [disconnect, after_run]
    obtain ⟨hnone, _⟩ | ⟨c', _, h', hdisconnect, _⟩ := b.server.disconnect_cases session.fd b.host
    · cases hget.symm.trans hnone
    · rw [hdisconnect]
      exact DescriptorTable.get?_erase_self _ _
  -- the set has an entry for whoever is in the table, so that asking succeeds
  retuned := by
    intro interest
    have hmem := hpaired.mem_descriptors (Server.mem_roster_of_get? hget)
    obtain ⟨polled, hadd, hentry⟩ := PollSet.add_of_mem interest hpaired.wellFormed hmem
    have hcontains : b.server.connections.contains session.fd = true := by
      rw [DescriptorTable.contains, hget]
      rfl
    have hset : b.server.setInterest session.fd interest
        = .ok { b.server with polled := polled } := by
      rw [Server.setInterest, if_pos hcontains, hadd]
      rfl
    rw [setInterest, after_run, hset]
    exact hentry

end Session

/-- What a handler finds its session to be after any steps of its own: faithful
    exactly as long as the connection under the descriptor, if any, was accepted
    before the call; and misled as soon as it was accepted later. -/
theorem session_faithful_iff (hreach : Reachable a) {fd : Descriptor} {c₀ : Connection C}
    (hget : a.server.connections.get? fd = some c₀) (hsteps : Operated a b) :
    ((⟨fd⟩ : Session).Faithful c₀.id b
        ↔ ∀ c, b.server.connections.get? fd = some c → c.id < a.server.nextId)
      ∧ ∀ c, b.server.connections.get? fd = some c → a.server.nextId ≤ c.id →
        (⟨fd⟩ : Session).Misled c₀.id c b := by
  have hidentified := hreach.identified
  have hsince : Since a b := .of_operated hreach.paired hsteps
  have hseat := Server.mem_roster_of_get? hget
  have hlive := hsince.live_iff hidentified hseat
  have hmisled : ∀ c, b.server.connections.get? fd = some c → a.server.nextId ≤ c.id →
      (⟨fd⟩ : Session).Misled c₀.id c b := by
    intro c hfound hnew
    have hbelow : c₀.id < a.server.nextId := hidentified.below _ hseat
    exact Session.misled_of_other hsince.paired hlive hfound (by omega)
  refine ⟨⟨?_, ?_⟩, hmisled⟩
  · -- a misled session answers for a connection that is gone
    intro hfaithful c hfound
    by_contra hnew
    have hwrong := hmisled c hfound (Nat.le_of_not_lt hnew)
    obtain ⟨answer, hanswer, htold⟩ := hfaithful.connected
    cases hwrong.connected.symm.trans hanswer
    exact hwrong.gone (htold.mp rfl)
  · intro hold
    refine Session.faithful_of_own hsince.paired hlive ?_
    intro c hfound
    -- nobody but the connection of the call ever had this seat and an id from before it
    have hkept := hsince.seat (Server.mem_roster_of_get? hfound) (hold c hfound)
    obtain ⟨c', hget', hid, _⟩ := (Server.mem_roster_iff hreach.paired.keys_nodup).mp hkept
    obtain rfl := Option.some.inj (hget.symm.trans hget')
    exact hid.symm

/-- The system after a connection was torn down and the next client accepted. -/
def Application.replaced (a : Application L C D) (fd : Descriptor) (handler : C) :
    Application L C D :=
  after (run (·.accept handler)) (after (run (·.disconnect fd)) a)

/-- In the example the next client gets the number that has just been freed, and another id. -/
theorem Loopback.replaced_reuses : ∃ (app : Application Unit Unit Unit) (c₀ c : Connection Unit),
    Loopback.serving? 2 1 = some app ∧ app.server.nextId = 2
      ∧ app.server.connections.get? 4 = some c₀ ∧ c₀.id = 1
      ∧ (app.replaced 4 ()).server.connections.get? 4 = some c ∧ c.id = 2 := by
  have hserving : (Loopback.serving? 2 1).map (fun app =>
      ((app.server.connections.get? 4).map Connection.id, app.server.nextId,
        ((app.replaced 4 ()).server.connections.get? 4).map Connection.id))
          = some (some 1, 2, some 2) := by
    decide +kernel
  obtain ⟨app, happ, hparts⟩ := Option.map_eq_some_iff.mp hserving
  simp only [Prod.mk.injEq] at hparts
  obtain ⟨hbefore, hnext, hafter⟩ := hparts
  obtain ⟨c₀, hget, hid⟩ := Option.map_eq_some_iff.mp hbefore
  obtain ⟨c, hfound, hnew⟩ := Option.map_eq_some_iff.mp hafter
  exact ⟨app, c₀, c, happ, hnext, hget, hid, hfound, hnew⟩

/-- Tearing one connection down and accepting the next takes two steps. -/
theorem operated_replaced (a : Application L C D) (fd : Descriptor) (handler : C) :
    Operated a (a.replaced fd handler) := .tail (.single (.disconnect a fd)) (.accept _ handler)

/-- The session of the first client is misled by the second. -/
theorem session_faithful_iff_replaced : ∃ (app : Application Unit Unit Unit) (c : Connection Unit),
    Loopback.serving? 2 1 = some app ∧ Operated app (app.replaced 4 ())
      ∧ (⟨4⟩ : Session).Misled 1 c (app.replaced 4 ())
      ∧ ¬ (⟨4⟩ : Session).Faithful 1 (app.replaced 4 ()) := by
  obtain ⟨app, c₀, c, happ, hnext, hget, hid, hfound, hnew⟩ := Loopback.replaced_reuses
  have hsteps := operated_replaced app 4 ()
  obtain ⟨hiff, hmisled⟩ := session_faithful_iff (Loopback.serving_reachable happ) hget hsteps
  rw [hid] at hiff hmisled
  refine ⟨app, c, happ, hsteps, hmisled c hfound (by omega), ?_⟩
  intro hfaithful
  have hold := hiff.mp hfaithful c hfound
  omega

/-- So sessions do not stay with their connections under all steps of a handler. -/
theorem not_all_sessions_faithful : ¬ ∀ (a b : Application Unit Unit Unit) (fd : Descriptor)
    (c₀ : Connection Unit), Reachable a → a.server.connections.get? fd = some c₀ → Operated a b →
      (⟨fd⟩ : Session).Faithful c₀.id b := by
  intro hall
  obtain ⟨app, c₀, c, happ, _, hget, hid, hfound, hnew⟩ := Loopback.replaced_reuses
  have hfaithful := hall app (app.replaced 4 ()) 4 c₀ (Loopback.serving_reachable happ) hget
    (operated_replaced app 4 ())
  have hgives : (⟨4⟩ : Session).connection (app.replaced 4 ()) = .ok c (app.replaced 4 ()) :=
    Session.connection_of_some hfound
  by_cases hlive : (app.replaced 4 ()).server.Live c₀.id
  · obtain ⟨c', hheld, hsame⟩ := hfaithful.held hlive
    cases hgives.symm.trans hheld
    omega
  · cases hgives.symm.trans (hfaithful.ended hlive)

end EventLoop
