import EventLoop.Proofs.Server.Sessions

/-! # Rounds within rounds

    The note of ready connections is a field of the server. A round writes it, calls
    the listener's handler, and only then takes the note and serves what is in it. So
    a handler of the listener that runs rounds writes over the note of the round that
    it is called in.

    * `Nests a last b`: steps and rounds lead from `a` to `b`, and `last` is what the
      last round among them that found something had to serve.
    * `Nests.ready`: that is what `b` has noted, unless none of them found anything.
    * `poll_nested`: hence a round serves its own note as long as no round in its
      listener's handler finds something, and otherwise what that round served.
    * Rounds that handlers of connections run disturb nothing: by then the note was
      taken, so `Sweep` goes over a fixed list whatever the handlers do.

    The induction is on the rounds, which nest: what a handler of an inner round can do
    is `Nests` again. -/

namespace EventLoop

open Application

variable {L C D : Type} {a b c w : Application L C D} {handlers : Handlers L C D}
  {last : Option (List Ready)}

/-! ## What a handler can do that runs rounds -/

/-- From one system to another by steps and rounds, with what the last round that found
    something had to serve. Inner rounds may give the handlers another meaning. -/
inductive Nests : Application L C D → Option (List Ready) → Application L C D → Prop
  | start (a : Application L C D) : Nests a none a
  | step {a b c : Application L C D} {last : Option (List Ready)} (h : Nests a last b)
      (hstep : Step b c) : Nests a last c
  /-- The round could not wait or found nothing. -/
  | idle {a b : Application L C D} {last : Option (List Ready)} {r : Except Error Nat}
      {s : Server L C}
      {h' : Host} (h : Nests a last b) (hwait : b.server.wait b.host = (r, s, h'))
      (hidle : ∀ n, r = .ok n → n = 0) : Nests a last { b with server := s, host := h' }
  /-- The round found something: it served what was noted after the call of the listener's
      handler, in which there may have been rounds again. -/
  | served {a b c d : Application L C D} {last inner : Option (List Ready)}
      {handlers : Handlers L C D}
      {n : Nat} {s : Server L C} {h' : Host} {noted : List Ready} (h : Nests a last b)
      (hwait : b.server.wait b.host = (.ok n, s, h')) (hn : 0 < n)
      (hnoted : s.readyConnections = .ok noted) (hmove : handlers.Move)
      (hlistener : Nests ({ b with server := s, host := h' }.noting noted) inner c)
      (hdispatch : Server.dispatch handlers (inner.getD noted) (c.noting []) = .ok () d) :
      Nests a (some (inner.getD noted)) (d.noting (inner.getD noted))

namespace Nests

/-- What rounds within rounds do can happen. -/
theorem reaches (h : Nests a last b) : Reaches a b := by
  -- on the nesting: a round within is moments as well
  induction h with
  | start _ => exact .refl
  | step _ hstep ih => exact ih.tail (.step hstep)
  | idle _ hwait _ ih => exact ih.tail (.of_wait hwait)
  | @served a b c d _ inner _ _ s h' noted _ hwait _ _ hmove _ hdispatch ih ihlistener =>
      have hnote : Reaches b ({ b with server := s, host := h' }.noting noted) :=
        .tail (.single (.of_wait hwait)) (.note _ noted)
      have hserve : Reaches (c.noting []) d := (Server.dispatch_moves hmove _).of_ok hdispatch
      have hlisten : Reaches c (d.noting (inner.getD noted)) :=
        .head (.note c []) (hserve.tail (.note d (inner.getD noted)))
      exact ih.trans (hnote.trans (ihlistener.trans hlisten))

/-- What was served last is what is noted; without a round the note is as it was. -/
theorem ready (h : Nests a last b) : b.server.ready = last.getD a.server.ready := by
  induction h with
  | start _ => rfl
  | step _ hstep ih => exact hstep.ready.trans ih
  | idle _ hwait _ ih =>
      obtain ⟨polled, rfl, _⟩ := Server.wait_cases hwait
      exact ih
  | served _ _ _ _ _ _ _ _ _ => rfl

theorem trans {later : Option (List Ready)} (h : Nests a last b) (hlater : Nests b later c) :
    Nests a (later.or last) c := by
  -- on what comes later
  induction hlater with
  | start _ => exact h
  | step _ hstep ih => exact .step (ih h) hstep
  | idle _ hwait hidle ih => exact .idle (ih h) hwait hidle
  | served _ hwait hn hnoted hmove hlistener hdispatch ih _ =>
      exact .served (ih h) hwait hn hnoted hmove hlistener hdispatch

/-- What was served last was noted at a wait on the way, from the connections there
    were then. -/
theorem origin {note : List Ready} (h : Nests a last b) (hreach : Reachable a)
    (hlast : last = some note) :
    ∃ w, Reaches a w ∧ Reaches w b ∧ List.Forall₂ w.server.Notes w.server.readyEntries note := by
  induction h generalizing note with
  | start _ => cases hlast
  | step _ hstep ih =>
      obtain ⟨w, haw, hwb, hnotes⟩ := ih hreach hlast
      exact ⟨w, haw, hwb.tail (.step hstep), hnotes⟩
  | idle _ hwait _ ih =>
      obtain ⟨w, haw, hwb, hnotes⟩ := ih hreach hlast
      exact ⟨w, haw, hwb.tail (.of_wait hwait), hnotes⟩
  | @served a b c d _ inner _ _ s h' noted h hwait _ hnoted hmove hlistener hdispatch
        _ ihlistener =>
      have hwoken : Reaches a { b with server := s, host := h' } := h.reaches.tail (.of_wait hwait)
      have hnoting : Reaches a ({ b with server := s, host := h' }.noting noted) :=
        hwoken.tail (.note _ noted)
      have hrest : Reaches c (d.noting (inner.getD noted)) :=
        .head (.note c []) (((Server.dispatch_moves hmove _).of_ok hdispatch).tail (.note d _))
      obtain rfl : inner.getD noted = note := Option.some.inj hlast
      rcases inner with _ | deeper
      · -- nothing was found within, so that the round served its own note
        obtain ⟨own, hown, hnotes⟩ := (hreach.of_reaches hwoken).paired.readyConnections
        obtain rfl := Except.ok.inj (hown.symm.trans hnoted)
        exact ⟨_, hwoken, .head (.note _ own) (hlistener.reaches.trans hrest), hnotes⟩
      · obtain ⟨w, hw, hwc, hnotes⟩ := ihlistener (hreach.of_reaches hnoting) rfl
        exact ⟨w, hnoting.trans hw, hwc.trans hrest, hnotes⟩

end Nests

/-! ## Handlers that run rounds -/

/-- What the activity does without a panic, it does by steps and rounds. -/
def Nesting {α : Type} (act : Run L C D α) : Prop :=
  ∀ a x b, act a = .ok x b → ∃ last, Nests a last b

/-- Handlers that may run rounds; those of the listener do whatever they do by steps and
    rounds. -/
structure Handlers.Nest (handlers : Handlers L C D) : Prop where
  move : handlers.Move
  onListen : ∀ l events, Nesting (handlers.onListen l events)

theorem nesting_pure {α : Type} (x : α) : Nesting (pure x : Run L C D α) := by
  rintro a _ _ ⟨⟩
  exact ⟨none, .start a⟩

/-- Steps alone leave what is to be served as it is. -/
theorem Operated.nests (h : Operated a b) : Nests a none b := by
  induction h with
  | refl => exact .start a
  | tail _ hstep ih => exact ih.step hstep

theorem Operates.nesting {α : Type} {act : Run L C D α} (h : Operates act) : Nesting act := by
  intro a x b hok
  have hsteps := h a
  rw [after_eq_of_ok hok] at hsteps
  exact ⟨none, Operated.nests hsteps⟩

/-- Such activities can follow each other. -/
theorem nesting_bind {α β : Type} {act : Run L C D α} {f : α → Run L C D β} (hact : Nesting act)
    (hf : ∀ x, Nesting (f x)) : Nesting (act >>= f) := by
  intro a y c hok
  cases hfirst : act a with
  | ok x b =>
      rw [bind_of_ok hfirst] at hok
      obtain ⟨last, hnests⟩ := hact a x b hfirst
      obtain ⟨later, hlater⟩ := hf x b y c hok
      exact ⟨later.or last, hnests.trans hlater⟩
  | error p b =>
      rw [bind_of_error hfirst] at hok
      cases hok

namespace Handlers.Nest

variable (h : handlers.Nest)

include h

/-- The call of the listener's handler that returns has run steps and rounds. -/
theorem callListener (hcall : handlers.callListener a = .ok () b) : ∃ last, Nests a last b := by
  rw [Handlers.callListener] at hcall
  by_cases hempty : (a.server.polled.result 0).isEmpty = true
  · simp only [if_pos hempty] at hcall
    cases hcall
    exact ⟨none, .start a⟩
  · simp only [if_neg hempty] at hcall
    obtain ⟨last, hnests⟩ := h.onListen a.server.handler (a.server.polled.result 0) _ _ _ hcall
    have htraced := Step.traced a s!"dispatch listener {(a.server.polled.result 0).inspect}"
    exact ⟨last.or none, (Nests.start a |>.step htraced).trans hnests⟩

/-- So rounds may be run by the handlers that are called in them. -/
theorem poll : Nesting (Server.poll handlers) := by
  intro a answer e hok
  cases hbound : a.server.isBound with
  | false =>
      rw [Server.poll_of_unbound hbound] at hok
      cases hok
      exact ⟨none, .start a⟩
  | true =>
      rw [Server.poll_of_bound hbound] at hok
      -- the wait fails, finds nobody, or finds somebody
      rcases hwait : a.server.wait a.host with ⟨_ | _ | n, s, h'⟩
      · rw [bind_of_ok (run_eq hwait)] at hok
        cases hok
        exact ⟨none, .idle (.start a) hwait fun n hn => by cases hn⟩
      · rw [bind_of_ok (run_eq hwait)] at hok
        cases hok
        exact ⟨none, .idle (.start a) hwait fun n hn => by cases hn; rfl⟩
      · rw [bind_of_ok (run_eq hwait)] at hok
        change (Server.serveReady handlers >>= _ : Run L C D _) _ = _ at hok
        cases hready : s.readyConnections with
        | error p =>
            rw [bind_of_error (Server.serveReady_of_error hready)] at hok
            cases hok
        | ok noted =>
            rw [bind_of_eq (Server.serveReady_of_ok hready)] at hok
            rcases hlistener :
              handlers.callListener ({ a with server := s, host := h' }.noting noted)
              with ⟨⟨⟩, b⟩ | ⟨p, b⟩
            · obtain ⟨last, hnests⟩ := h.callListener hlistener
              have hserve := Server.serveNoted_of_listened hlistener hnests.ready
              rcases hdispatch : Server.dispatch handlers (last.getD noted) (b.noting [])
                with ⟨⟨⟩, d⟩ | ⟨p, d⟩
              · rw [bind_of_ok (hserve.trans (bind_of_ok hdispatch))] at hok
                cases hok
                exact ⟨_, .served (.start a) hwait (Nat.succ_pos n) hready h.move hnests hdispatch⟩
              · rw [bind_of_error (hserve.trans (bind_of_error hdispatch))] at hok
                cases hok
            · rw [bind_of_error (Server.serveNoted_of_stopped hlistener)] at hok
              cases hok

end Handlers.Nest

/-! ## What a round serves -/

/-- The sweep after the call of the listener's handler, and the outcome of the round. -/
inductive Resumed (handlers : Handlers L C D) (ready : Nat) (served : List Ready)
    (b : Application L C D) :
    List (Turn L C D) → Outcome L C D (Except Error Nat) → Prop
  | panicked {p : Panic} {c : Application L C D} {turns : List (Turn L C D)}
      (hsweep : Sweep handlers served (b.noting []) turns (.error p c)) :
      Resumed handlers ready served b turns (.error p c)
  | finished {c : Application L C D} {turns : List (Turn L C D)}
      (hsweep : Sweep handlers served (b.noting []) turns (.ok () c)) :
      Resumed handlers ready served b turns (.ok (.ok ready) (c.noting served))

namespace Resumed

variable {ready : Nat} {noted served : List Ready} {turns : List (Turn L C D)}
  {outcome : Outcome L C D (Except Error Nat)}

/-- A round in which the listener's handler starts no other serves what it noted itself. -/
theorem round (h : Resumed handlers ready noted b turns outcome)
    (hlistener : handlers.callListener (a.noting noted) = .ok () b) :
    Round handlers ready noted a turns outcome := by
  cases h with
  | panicked hsweep => exact .panicked hlistener hsweep
  | finished hsweep => exact .finished hlistener hsweep

/-- The turns are those of the list that is served, up to a panic. -/
theorem turns_ready (h : Resumed handlers ready served b turns outcome) :
    turns.map Turn.ready <+: served
      ∧ ∀ answer c, outcome = .ok answer c → turns.map Turn.ready = served := by
  cases h with
  | panicked hsweep => exact ⟨hsweep.turns_ready.1, fun _ _ hok => by cases hok⟩
  | finished hsweep => exact ⟨hsweep.turns_ready.1, fun _ _ _ => hsweep.turns_ready.2 _ rfl⟩

/-- Serving resumes with what is noted then. -/
theorem of_listened (ready : Nat) (hlistener : handlers.callListener (a.noting noted) = .ok () b)
    (hserved : b.server.ready = served)
    (hsweep : Sweep handlers served (b.noting []) turns
      (Server.dispatch handlers served (b.noting []))) :
    Resumed handlers ready served b turns
      ((Server.serveNoted handlers noted >>= fun _ => pure (.ok ready)) a) := by
  have hserve := Server.serveNoted_of_listened hlistener hserved
  rcases hdispatch : Server.dispatch handlers served (b.noting []) with ⟨⟨⟩, c⟩ | ⟨p, c⟩
  · rw [hdispatch] at hsweep
    rw [bind_of_ok (hserve.trans (bind_of_ok hdispatch))]
    exact .finished hsweep
  · rw [hdispatch] at hsweep
    rw [bind_of_error (hserve.trans (bind_of_error hdispatch))]
    exact .panicked hsweep

end Resumed

/-- A round whose listener's handler may run rounds. When that handler returns, the
    round serves what the last of its rounds that found something had to serve: what
    was ready at a wait later than its own, each connection once, with the flags of
    that later wait, who came in meanwhile among them. Only if none of its rounds
    found anything does the round serve its own note, as it has to. -/
theorem poll_nested (hreach : Reachable a) (hbound : a.server.isBound = true)
    (hnest : handlers.Nest)
    {n : Nat} {s : Server L C} {h : Host} (hwait : a.server.wait a.host = (.ok n, s, h))
    (hn : 0 < n) :
    ∃ noted, s.readyConnections = .ok noted
      ∧ List.Forall₂ s.Notes s.readyEntries noted ∧ (noted.map Ready.id).Nodup
      ∧ ((∃ p b, handlers.callListener ({ a with server := s, host := h }.noting noted) = .error p b
            ∧ Server.poll handlers a = .error p b)
        ∨ ∃ last b turns,
          handlers.callListener ({ a with server := s, host := h }.noting noted) = .ok () b
            ∧ Nests ({ a with server := s, host := h }.noting noted) last b
            ∧ Resumed handlers n (last.getD noted) b turns (Server.poll handlers a)
            ∧ turns.map Turn.ready <+: last.getD noted
            ∧ (∀ answer c, Server.poll handlers a = .ok answer c →
              turns.map Turn.ready = last.getD noted)
            ∧ ((last.getD noted).map Ready.id).Nodup
            ∧ (last = none → Round handlers n noted { a with server := s, host := h } turns
                (Server.poll handlers a))
            ∧ ∀ served, last = some served →
                ∃ w, Reaches ({ a with server := s, host := h }.noting noted) w ∧ Reaches w b
                  ∧ List.Forall₂ w.server.Notes w.server.readyEntries served) := by
  have hwoken : Reachable { a with server := s, host := h } := hreach.of_moment (.of_wait hwait)
  obtain ⟨noted, hready, hnoted⟩ := hwoken.paired.readyConnections
  have hnoting : Reachable ({ a with server := s, host := h }.noting noted) :=
    hwoken.of_moment (.note _ noted)
  have hpoll : Server.poll handlers a
      = (Server.serveNoted handlers noted >>= fun _ => pure (.ok n))
        { a with server := s, host := h } :=
    Server.poll_of_ready hbound hwait hn hready
  refine ⟨noted, hready, hnoted, hwoken.paired.notes_nodup hwoken.identified hnoted, ?_⟩
  rcases hlistener : handlers.callListener ({ a with server := s, host := h }.noting noted)
    with ⟨⟨⟩, b⟩ | ⟨p, b⟩
  · right
    obtain ⟨last, hnests⟩ := hnest.callListener hlistener
    -- whoever is served was noted at some wait, the own one or a later one
    obtain ⟨w, hw, hwb, hserved⟩ : ∃ w, Reachable w ∧ Reaches w b
        ∧ List.Forall₂ w.server.Notes w.server.readyEntries (last.getD noted) := by
      rcases last with _ | served
      · exact ⟨_, hwoken, .head (.note _ noted) hnests.reaches, hnoted⟩
      · obtain ⟨w, hw, hwb, hserved⟩ := hnests.origin hnoting rfl
        exact ⟨w, hnoting.of_reaches hw, hwb, hserved⟩
    have hsince : Since w (b.noting []) := .of_reaches hw.paired (hwb.tail (.note b []))
    obtain ⟨turns, hsweep, _, _⟩ :=
      dispatch_sweeps hnest.move hw.identified (Server.notes_seat hserved) hsince
    have hresumed := Resumed.of_listened n hlistener hnests.ready hsweep
    rw [← hpoll] at hresumed
    refine ⟨last, b, turns, hlistener, hnests, hresumed, hresumed.turns_ready.1,
      hresumed.turns_ready.2, hw.paired.notes_nodup hw.identified hserved, ?_, ?_⟩
    · rintro rfl
      exact hresumed.round hlistener
    · rintro served rfl
      exact hnests.origin hnoting rfl
  · left
    refine ⟨p, b, hlistener, ?_⟩
    rw [hpoll]
    exact bind_of_error (Server.serveNoted_of_stopped hlistener)

/-! ## A listener that accepts and runs a round -/

/-- The connection with one more call on record. -/
def Connection.counted (c : Connection C) : Connection C :=
  { c with userData := some (.number (match c.userData with | some (.number n) => n + 1 | _ => 1)) }

/-- Handlers under which the listener accepts a client and runs a round, in which it does
    so again; connections count their calls. -/
def Loopback.nesting : Nat → Handlers Unit Unit Unit
  | 0 => ⟨fun _ _ => pure (), fun _ fd _ => (⟨fd⟩ : Session).update Connection.counted⟩
  | depth + 1 => {
    onListen := fun _ _ => do
      let _ ← run (·.accept ())
      let _ ← Server.poll (Loopback.nesting depth)
    onConnection := fun _ fd _ => (⟨fd⟩ : Session).update Connection.counted }

/-- Calls of the handler of the connection under a descriptor. -/
def Application.calls (a : Application L C D) (fd : Descriptor) : Option UserData :=
  (a.server.connections.get? fd).bind Connection.userData

theorem operates_counted (fd : Descriptor) :
    Operates ((⟨fd⟩ : Session).update Connection.counted : Run L C D Unit) := by
  intro a
  cases hget : a.server.connections.get? fd with
  | none =>
      rw [Session.after_update_of_none _ hget]
      exact .refl
  | some c =>
      rw [Session.after_update_of_some _ hget]
      exact .single (.use a (h := a.host) (fun _ _ => ⟨rfl, rfl⟩) fun _ hfd => hfd)

/-- The handlers of the example run rounds and steps, however deep. -/
theorem Loopback.nesting_nest (depth : Nat) : (Loopback.nesting depth).Nest := by
  -- on the depth: the handlers of the inner rounds are those of one less
  induction depth with
  | zero =>
      exact ⟨⟨fun _ _ => moves_pure (), fun _ fd _ => (operates_counted fd).moves⟩,
        fun _ _ => nesting_pure ()⟩
  | succ depth ih =>
      have haccept : Operates (run (·.accept ()) : Run Unit Unit Unit (Except Error Descriptor)) :=
        operates_of_step fun a => .accept a ()
      refine ⟨⟨fun _ _ => ?_, fun _ fd _ => (operates_counted fd).moves⟩, fun _ _ => ?_⟩
      · exact moves_bind haccept.moves fun _ => moves_bind (Server.poll_moves ih.move) fun _ =>
          moves_pure ()
      · exact nesting_bind haccept.nesting fun _ => nesting_bind ih.poll fun _ => nesting_pure ()

/-- A sweep over others leaves the count of a connection alone. -/
theorem Sweep.calls_eq {depth : Nat} {fd : Descriptor} {noted : List Ready}
    {a c : Application Unit Unit Unit}
    {turns : List (Turn Unit Unit Unit)}
    (h : Sweep (Loopback.nesting depth) noted a turns (.ok () c))
    (hothers : ∀ r ∈ noted, r.fd ≠ fd) : c.calls fd = a.calls fd := by
  generalize houtcome : (EStateM.Result.ok () c : Outcome Unit Unit Unit Unit) = outcome at h
  -- on the sweep, whose turns are all for other descriptors
  induction h with
  | done _ =>
      cases houtcome
      rfl
  | skipped _ _ ih => exact ih (fun r hr => hothers r (List.mem_cons_of_mem _ hr)) houtcome
  | @called r _ a b _ _ _ _ _ hcall _ ih =>
      have hrest := ih (fun r hr => hothers r (List.mem_cons_of_mem _ hr)) houtcome
      have hfd : fd ≠ r.fd := fun hfd => hothers r List.mem_cons_self hfd.symm
      have hupdate : (⟨r.fd⟩ : Session).update Connection.counted
          (a.traced s!"dispatch fd {r.fd} {r.events.inspect}") = .ok () b := by
        cases depth <;> exact hcall
      have huntouched : Untouched (a.traced s!"dispatch fd {r.fd} {r.events.inspect}")
          (after ((⟨r.fd⟩ : Session).update Connection.counted)
            (a.traced s!"dispatch fd {r.fd} {r.events.inspect}")) fd :=
        Session.update_untouched Connection.counted hfd
      rw [after_eq_of_ok hupdate] at huntouched
      rw [hrest, Application.calls, huntouched.1]
      rfl
  | panicked _ _ _ => cases houtcome

/-- One client accepted and one waiting. The wait finds the first; the listener's handler
    accepts the second and runs a round, in which both are called. -/
theorem Loopback.nesting_runs :
    ∃ (app : Application Unit Unit Unit) (s : Server Unit Unit) (h : Host)
    (b c : Application Unit Unit Unit),
    Loopback.serving? 2 1 = some app ∧ app.server.isBound = true
    ∧ app.server.wait app.host = (.ok 2, s, h)
      ∧ s.readyConnections = .ok [⟨4, 1, .writable⟩]
      ∧ (Loopback.nesting 1).callListener
        ({ app with server := s, host := h }.noting [⟨4, 1, .writable⟩])
          = .ok () b
      ∧ b.server.ready = [⟨4, 1, .writable⟩, ⟨5, 2, .writable⟩] ∧ b.calls 5 = some (.number 1)
      ∧ Server.poll (Loopback.nesting 1) app = .ok (.ok 2) c ∧ c.calls 5 = some (.number 2) := by
  have hserving : (Loopback.serving? 2 1).map (fun app =>
      (app.server.isBound, (app.server.wait app.host).1,
        (app.server.wait app.host).2.1.readyConnections))
      = some (true, .ok 2, .ok [⟨4, 1, .writable⟩]) := by decide +kernel
  obtain ⟨app, happ, hparts⟩ := Option.map_eq_some_iff.mp hserving
  simp only [Prod.mk.injEq] at hparts
  obtain ⟨hbound, hanswer, hready⟩ := hparts
  -- the inner round is run by evaluation: it notes both connections and calls the newcomer
  have hlistener : ((Loopback.serving? 2 1).bind fun app =>
      match (Loopback.nesting 1).callListener ({ app with
          server := (app.server.wait app.host).2.1
          host := (app.server.wait app.host).2.2 }.noting [⟨4, 1, .writable⟩]) with
        | .ok _ b => some (b.server.ready, b.calls 5)
        | .error _ _ => none)
      = some ([⟨4, 1, .writable⟩, ⟨5, 2, .writable⟩], some (.number 1)) := by decide +kernel
  have hpoll : ((Loopback.serving? 2 1).bind fun app =>
      match Server.poll (Loopback.nesting 1) app with
        | .ok answer c => some (answer, c.calls 5)
        | .error _ _ => none) = some (.ok 2, some (.number 2)) := by decide +kernel
  rw [happ, Option.bind_some] at hlistener hpoll
  rcases hwait : app.server.wait app.host with ⟨answer, s, h⟩
  rw [hwait] at hanswer hready hlistener
  obtain rfl : answer = .ok 2 := hanswer
  rcases hcall : (Loopback.nesting 1).callListener
      ({ app with server := s, host := h }.noting [⟨4, 1, .writable⟩]) with ⟨⟨⟩, b⟩ | ⟨p, b⟩
  · rw [hcall] at hlistener
    rcases hround : Server.poll (Loopback.nesting 1) app with ⟨answer, c⟩ | ⟨p, c⟩
    · rw [hround] at hpoll
      simp only [Option.some.injEq, Prod.mk.injEq] at hlistener hpoll
      obtain ⟨rfl, hcalls⟩ := hpoll
      exact ⟨app, s, h, b, c, happ, hbound, hwait, hready, hcall, hlistener.1, hlistener.2, hround,
        hcalls⟩
    · rw [hround] at hpoll
      cases hpoll
  · rw [hcall] at hlistener
    cases hlistener

/-- The statement at that run: the outer round goes over what the inner one had to serve,
    the second client included, and has nobody skipped. -/
theorem poll_nested_twice : ∃ (app : Application Unit Unit Unit) (s : Server Unit Unit) (h : Host)
    (b c : Application Unit Unit Unit) (turns : List (Turn Unit Unit Unit)),
    Loopback.serving? 2 1 = some app ∧ app.server.wait app.host = (.ok 2, s, h)
    ∧ (Loopback.nesting 1).Nest
      ∧ s.readyConnections = .ok [⟨4, 1, .writable⟩]
      ∧ (Loopback.nesting 1).callListener
        ({ app with server := s, host := h }.noting [⟨4, 1, .writable⟩])
          = .ok () b
      ∧ Server.poll (Loopback.nesting 1) app = .ok (.ok 2) c
      ∧ Resumed (Loopback.nesting 1) 2 [⟨4, 1, .writable⟩, ⟨5, 2, .writable⟩] b turns
        (.ok (.ok 2) c)
      ∧ turns.map Turn.ready = [⟨4, 1, .writable⟩, ⟨5, 2, .writable⟩] := by
  obtain ⟨app, s, h, b, c, happ, hbound, hwait, hready, hcall, hserved, _, hpoll, _⟩ :=
    Loopback.nesting_runs
  have hnest := Loopback.nesting_nest 1
  have hreach := Loopback.serving_reachable happ
  obtain ⟨noted, hown, _, _, ⟨p, b', hstopped, _⟩ |
    ⟨last, b', turns, hlistened, hnests, hresumed, _, hturns, _⟩⟩ :=
    poll_nested hreach hbound hnest hwait (by decide)
  · obtain rfl := Except.ok.inj (hready.symm.trans hown)
    cases hcall.symm.trans hstopped
  · obtain rfl := Except.ok.inj (hready.symm.trans hown)
    cases hcall.symm.trans hlistened
    have hlast : last.getD [⟨4, 1, .writable⟩] = [⟨4, 1, .writable⟩, ⟨5, 2, .writable⟩] :=
      hnests.ready.symm.trans hserved
    rw [hlast] at hresumed hturns
    rw [hpoll] at hresumed
    exact ⟨app, s, h, b, c, turns, happ, hwait, hnest, hready, hcall, hpoll, hresumed,
      hturns _ _ hpoll⟩

/-- So a round does not always serve its own note: here the second client, who came in during
    it, is called once more by it. -/
theorem not_all_rounds_undisturbed :
    ¬ ∀ (handlers : Handlers Unit Unit Unit) (a : Application Unit Unit Unit)
    (n : Nat) (s : Server Unit Unit) (h : Host) (noted : List Ready), Reachable a →
      a.server.isBound = true → handlers.Nest → a.server.wait a.host = (.ok n, s, h) → 0 < n →
      s.readyConnections = .ok noted →
      ∃ turns, Round handlers n noted { a with server := s, host := h } turns
        (Server.poll handlers a) := by
  intro hall
  obtain ⟨app, s, h, b, c, happ, hbound, hwait, hready, hcall, _, honce, hpoll, htwice⟩ :=
    Loopback.nesting_runs
  obtain ⟨turns, hround⟩ := hall _ app 2 s h _ (Loopback.serving_reachable happ) hbound
    (Loopback.nesting_nest 1) hwait (by decide) hready
  rw [hpoll] at hround
  generalize houtcome : (EStateM.Result.ok (.ok 2) c : Outcome Unit Unit Unit (Except Error Nat))
    = outcome
    at hround
  cases hround with
  | stopped _ => cases houtcome
  | panicked _ _ => cases houtcome
  | @finished b' c' _ hlistener hsweep =>
      -- the sweep over the own note leaves out the connection that counted a second call
      have hcount : c'.calls 5 = b'.calls 5 := by
        refine (hsweep.calls_eq ?_).trans rfl
        rintro r hr
        rw [List.mem_singleton.mp hr]
        decide
      cases hcall.symm.trans hlistener
      cases houtcome
      have hsame : c'.calls 5 = some (.number 2) := htwice
      rw [hcount, honce] at hsame
      cases hsame

end EventLoop
