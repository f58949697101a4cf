import EventLoop.Proofs.Server.Identity
import EventLoop.Proofs.Server.Rounds

/-! # What a round calls

    A round notes who is ready before it calls anybody, and the handlers it then
    calls change set and table under it. Still each connection noted gets exactly
    one turn, in the order of the set at the wait, and its handler is called in it
    exactly if the connection is still live (`Sweep`).

    * `turn_of_live`, `turn_of_gone`: a turn looks under the descriptor and compares
      ids. That this finds out whether the connection is live is `Since.live_iff`:
      descriptors are reused, but a connection keeps its seat, and ids are not
      given out twice.
    * `dispatch_sweeps`: serving the note is a sweep. The induction is on the note;
      it carries that the system came from the one in which the note was made.
    * `poll_calls_ready` puts wait, note, listener and sweep together. -/

namespace EventLoop

open Application

variable {L C D : Type} {a b w : Application L C D} {handlers : Handlers L C D}

/-- The outcome of an activity. -/
abbrev Outcome (L C D α : Type) := EStateM.Result Panic (Application L C D) α

def Application.traced (a : Application L C D) (message : String) : Application L C D :=
  { a with host := a.host.log .trace message }

def Application.noting (a : Application L C D) (noted : List Ready) : Application L C D :=
  { a with server := { a.server with ready := noted } }

/-! ## Turns -/

/-- The turn of a ready connection, and the system as it is then. -/
structure Turn (L C D : Type) where
  ready : Ready
  before : Application L C D

/-- The call of the handler of a ready connection. -/
def Handlers.call (handlers : Handlers L C D) (c : Connection C) (r : Ready)
    (a : Application L C D) :
    Outcome L C D Unit :=
  handlers.onConnection c.handler r.fd r.events
    (a.traced s!"dispatch fd {r.fd} {r.events.inspect}")

/-- The call of the listener's handler, if the last wait found the listener ready. -/
def Handlers.callListener (handlers : Handlers L C D) (a : Application L C D) :
    Outcome L C D Unit :=
  let events := a.server.polled.result 0
  if events.isEmpty then .ok () a
  else handlers.onListen a.server.handler events (a.traced s!"dispatch listener {events.inspect}")

/-- Serving noted connections, beginning in a system, with the turns they get and the
    outcome. In its turn a connection that is gone is skipped; of one that is live
    the handler it has then is called with what was noted. A panic ends the sweep. -/
inductive Sweep (handlers : Handlers L C D) :
    List Ready → Application L C D → List (Turn L C D) → Outcome L C D Unit → Prop
  | done (a : Application L C D) : Sweep handlers [] a [] (.ok () a)
  | skipped {r : Ready} {rest : List Ready} {a : Application L C D} {turns : List (Turn L C D)}
      {outcome : Outcome L C D Unit} (hgone : ¬ a.server.Live r.id)
      (h : Sweep handlers rest a turns outcome) :
      Sweep handlers (r :: rest) a (⟨r, a⟩ :: turns) outcome
  | called {r : Ready} {rest : List Ready} {a b : Application L C D} {turns : List (Turn L C D)}
      {outcome : Outcome L C D Unit} {c : Connection C}
      (hget : a.server.connections.get? r.fd = some c) (hid : c.id = r.id)
      (hcall : handlers.call c r a = .ok () b) (h : Sweep handlers rest b turns outcome) :
      Sweep handlers (r :: rest) a (⟨r, a⟩ :: turns) outcome
  | panicked {r : Ready} {rest : List Ready} {a b : Application L C D}
      {c : Connection C} {p : Panic}
      (hget : a.server.connections.get? r.fd = some c) (hid : c.id = r.id)
      (hcall : handlers.call c r a = .error p b) :
      Sweep handlers (r :: rest) a [⟨r, a⟩] (.error p b)

/-- Who is noted gets one turn each, in order; all of them unless a call panics. -/
theorem Sweep.turns_ready {noted : List Ready} {turns : List (Turn L C D)}
    {outcome : Outcome L C D Unit} (h : Sweep handlers noted a turns outcome) :
    turns.map Turn.ready <+: noted ∧ ∀ b, outcome = .ok () b → turns.map Turn.ready = noted := by
  -- on the sweep, which passes over the note in order
  induction h with
  | done a => exact ⟨List.prefix_refl _, fun _ _ => rfl⟩
  | skipped _ _ ih =>
      rw [List.map_cons]
      exact ⟨List.cons_prefix_cons.mpr ⟨rfl, ih.1⟩, fun b hb => congrArg _ (ih.2 b hb)⟩
  | called _ _ _ _ ih =>
      rw [List.map_cons]
      exact ⟨List.cons_prefix_cons.mpr ⟨rfl, ih.1⟩, fun b hb => congrArg _ (ih.2 b hb)⟩
  | panicked _ _ _ =>
      rw [List.map_cons]
      exact ⟨List.cons_prefix_cons.mpr ⟨rfl, List.nil_prefix⟩, fun b hb => by cases hb⟩

namespace Server

/-- In its turn the handler of a connection that is still there is called with what was
    noted. -/
theorem turn_of_live {r : Ready} {c : Connection C} (hget : a.server.connections.get? r.fd = some c)
    (hid : c.id = r.id) : turn handlers r a = handlers.call c r a := by
  rw [turn, hget]
  simp only [if_pos hid]
  rfl

/-- The turn of a connection that is gone, or was replaced, is skipped. -/
theorem turn_of_gone {r : Ready}
    (hgone : ¬ ∃ c, a.server.connections.get? r.fd = some c ∧ c.id = r.id) :
    turn handlers r a = .ok () a := by
  rw [turn]
  cases hget : a.server.connections.get? r.fd with
  | none => rfl
  | some c =>
      have hid : c.id ≠ r.id := fun hid => hgone ⟨c, hget, hid⟩
      simp only [if_neg hid]

theorem dispatchListener_eq (a : Application L C D) :
    dispatchListener handlers a = handlers.callListener a := by
  rw [Handlers.callListener]
  show (if (!(a.server.polled.result 0).isEmpty) = true then _ else _ : Run L C D Unit) a = _
  cases hempty : (a.server.polled.result 0).isEmpty with
  | true => rfl
  | false => rfl

end Server

/-! ## Sweeps -/

theorem Step.traced (a : Application L C D) (message : String) : Step a (a.traced message) :=
  .world a fun _ h => h

/-- A handler that returns has got there by moments. -/
theorem Handlers.Move.call (h : handlers.Move) {c : Connection C} {r : Ready}
    (hcall : handlers.call c r a = .ok () b) : Reaches a b :=
  .head (.step (Step.traced a s!"dispatch fd {r.fd} {r.events.inspect}"))
    ((h.onConnection c.handler r.fd r.events).of_ok hcall)

/-- Serving connections that were noted in `w` is a sweep, in any system that came
    of `w`; and each of its turns came of those before it. -/
theorem dispatch_sweeps (hmove : handlers.Move) (hidentified : Identified w) {noted : List Ready}
    (hnoted : ∀ r ∈ noted, ∃ x ∈ w.server.roster, x.key = r.fd ∧ x.id = r.id) (hsince : Since w b) :
    ∃ turns, Sweep handlers noted b turns (Server.dispatch handlers noted b)
      ∧ (∀ t ∈ turns, Since b t.before) ∧ turns.Pairwise fun t t' => Since t.before t'.before := by
  induction noted generalizing b with
  | nil => exact ⟨[], .done b, (fun _ ht => by cases ht), .nil⟩
  | cons r rest ih =>
      have hrest := fun r' hr' => hnoted r' (List.mem_cons_of_mem _ hr')
      obtain ⟨⟨key, id, socket⟩, hx, rfl, rfl⟩ := hnoted r List.mem_cons_self
      have hlive := hsince.live_iff hidentified hx
      have hself : Since b b := .refl hsince.paired
      rw [Server.dispatch_cons]
      -- the code looks under the descriptor, the sweep asks for the id: `hlive` says
      -- that in any system that came of `w` this is the same question
      by_cases hlives : b.server.Live r.id
      · obtain ⟨c, hget, hid⟩ := hlive.mp hlives
        have hturn : Server.turn handlers r b = handlers.call c r b := Server.turn_of_live hget hid
        rcases hcall : handlers.call c r b with ⟨⟨⟩, b'⟩ | ⟨p, b'⟩
        · have hnext : Since b b' := .of_reaches hsince.paired (hmove.call hcall)
          obtain ⟨turns, hsweep, hall, hpairs⟩ := ih hrest (hsince.trans hnext)
          rw [bind_of_ok (hturn.trans hcall)]
          refine ⟨⟨r, b⟩ :: turns, .called hget hid hcall hsweep, ?_, ?_⟩
          · intro t ht
            rcases List.mem_cons.mp ht with rfl | ht
            · exact hself
            · exact hnext.trans (hall t ht)
          · exact List.pairwise_cons.mpr ⟨fun t ht => hnext.trans (hall t ht), hpairs⟩
        · rw [bind_of_error (hturn.trans hcall)]
          refine ⟨[⟨r, b⟩], .panicked hget hid hcall, ?_, List.pairwise_singleton _ _⟩
          intro t ht
          rw [List.mem_singleton.mp ht]
          exact hself
      · have hturn : Server.turn handlers r b = .ok () b :=
          Server.turn_of_gone fun hfound => hlives (hlive.mpr hfound)
        obtain ⟨turns, hsweep, hall, hpairs⟩ := ih hrest hsince
        rw [bind_of_ok hturn]
        refine ⟨⟨r, b⟩ :: turns, .skipped hlives hsweep, ?_, List.pairwise_cons.mpr ⟨hall, hpairs⟩⟩
        intro t ht
        rcases List.mem_cons.mp ht with rfl | ht
        · exact hself
        · exact hall t ht

/-- Every turn of a sweep begins in a system that a program can have. -/
theorem Sweep.reachable (hmove : handlers.Move) {noted : List Ready} {turns : List (Turn L C D)}
    {outcome : Outcome L C D Unit} (h : Sweep handlers noted a turns outcome)
    (hreach : Reachable a) :
    ∀ t ∈ turns, Reachable t.before := by
  -- on the sweep: each call leads from one reachable system to the next
  induction h with
  | done _ => exact fun _ ht => by cases ht
  | skipped _ _ ih =>
      intro t ht
      rcases List.mem_cons.mp ht with rfl | ht
      · exact hreach
      · exact ih hreach t ht
  | called _ _ hcall _ ih =>
      intro t ht
      rcases List.mem_cons.mp ht with rfl | ht
      · exact hreach
      · exact ih (hreach.of_reaches (hmove.call hcall)) t ht
  | panicked _ _ _ =>
      intro t ht
      rw [List.mem_singleton.mp ht]
      exact hreach

/-- What holds of those still to be served, and is handed on by every turn, holds at each
    turn of a sweep and at its end. -/
theorem Sweep.steps {P : List Ready → Application L C D → Prop} {noted : List Ready}
    {turns : List (Turn L C D)}
    {outcome : Outcome L C D Unit} (h : Sweep handlers noted a turns outcome)
    (hskip : ∀ r rest a, P (r :: rest) a → ¬ a.server.Live r.id → P rest a)
    (hcall : ∀ r rest a c, P (r :: rest) a → a.server.connections.get? r.fd = some c → c.id = r.id →
      ∃ b, handlers.call c r a = .ok () b ∧ P rest b)
    (ha : P noted a) :
    (∀ t ∈ turns, ∃ rest, P (t.ready :: rest) t.before) ∧ ∃ b, outcome = .ok () b ∧ P [] b := by
  -- on the sweep: the predicate loses the connection whose turn it is
  induction h with
  | done a => exact ⟨(fun _ ht => by cases ht), a, rfl, ha⟩
  | @skipped r rest _ _ _ hgone _ ih =>
      obtain ⟨hturns, hend⟩ := ih (hskip _ _ _ ha hgone)
      refine ⟨?_, hend⟩
      rintro t (_ | ⟨_, ht⟩)
      · exact ⟨rest, ha⟩
      · exact hturns t ht
  | @called r rest _ _ _ _ _ hget hid hok _ ih =>
      obtain ⟨b, hok', hb⟩ := hcall _ _ _ _ ha hget hid
      cases hok.symm.trans hok'
      obtain ⟨hturns, hend⟩ := ih hb
      refine ⟨?_, hend⟩
      rintro t (_ | ⟨_, ht⟩)
      · exact ⟨rest, ha⟩
      · exact hturns t ht
  | panicked hget hid herror =>
      obtain ⟨b, hok, _⟩ := hcall _ _ _ _ ha hget hid
      cases herror.symm.trans hok

/-- What every call of a handler keeps is handed on with the note. -/
theorem Handlers.keeps_rest {P : Application L C D → Prop} {noted : List Ready}
    (hcall : ∀ r ∈ noted, ∀ a c, P a → a.server.connections.get? r.fd = some c → c.id = r.id →
      ∃ b, handlers.call c r a = .ok () b ∧ P b)
    (r : Ready) (rest : List Ready) (a : Application L C D) (c : Connection C)
    (ha : r :: rest ⊆ noted ∧ P a)
    (hget : a.server.connections.get? r.fd = some c) (hid : c.id = r.id) :
    ∃ b, handlers.call c r a = .ok () b ∧ rest ⊆ noted ∧ P b := by
  obtain ⟨b, hok, hb⟩ := hcall r (ha.1 List.mem_cons_self) a c ha.2 hget hid
  exact ⟨b, hok, List.subset_of_cons_subset ha.1, hb⟩

/-- What every call of a handler keeps, a sweep keeps up to each of its turns and to its
    end. -/
theorem Sweep.keeps {P : Application L C D → Prop} {noted rest : List Ready}
    {turns : List (Turn L C D)}
    {outcome : Outcome L C D Unit} (h : Sweep handlers rest a turns outcome) (hrest : rest ⊆ noted)
    (hcall : ∀ r ∈ noted, ∀ a c, P a → a.server.connections.get? r.fd = some c → c.id = r.id →
      ∃ b, handlers.call c r a = .ok () b ∧ P b)
    (ha : P a) : (∀ t ∈ turns, P t.before) ∧ ∃ b, outcome = .ok () b ∧ P b := by
  obtain ⟨hturns, b, hok, _, hb⟩ := h.steps (P := fun rest a => rest ⊆ noted ∧ P a)
    (fun _ _ _ ha _ => ⟨List.subset_of_cons_subset ha.1, ha.2⟩) (Handlers.keeps_rest hcall)
      ⟨hrest, ha⟩
  refine ⟨?_, b, hok, hb⟩
  intro t ht
  obtain ⟨_, _, hbefore⟩ := hturns t ht
  exact hbefore

/-- After the call of a turn the rest of the sweep follows. -/
theorem Sweep.rest {c : Connection C} {noted : List Ready} {turns : List (Turn L C D)}
    {t : Turn L C D} {outcome : Outcome L C D Unit}
    (hsweep : Sweep handlers noted a turns outcome) (ht : t ∈ turns)
    (hget : t.before.server.connections.get? t.ready.fd = some c) (hid : c.id = t.ready.id)
    (hcall : handlers.call c t.ready t.before = .ok () b) :
    t.ready ∈ noted ∧ ∃ rest turns', rest ⊆ noted ∧ Sweep handlers rest b turns' outcome := by
  -- on the sweep, up to the turn that is meant
  induction hsweep with
  | done a => cases ht
  | skipped hgone _ ih =>
      rcases List.mem_cons.mp ht with rfl | ht
      · exact absurd ⟨_, Server.mem_roster_of_get? hget, hid⟩ hgone
      · obtain ⟨hmem, rest, turns', hrest, hsweep'⟩ := ih ht
        exact ⟨List.mem_cons_of_mem _ hmem, rest, turns',
          fun _ hr => List.mem_cons_of_mem _ (hrest hr), hsweep'⟩
  | @called r rest _ _ turns' _ _ hget' _ hcall' hsweep' ih =>
      rcases List.mem_cons.mp ht with rfl | ht
      · obtain rfl := Option.some.inj (hget'.symm.trans hget)
        cases hcall'.symm.trans hcall
        exact ⟨List.mem_cons_self, rest, turns', fun _ hr => List.mem_cons_of_mem _ hr, hsweep'⟩
      · obtain ⟨hmem, rest', turns'', hrest, hsweep''⟩ := ih ht
        exact ⟨List.mem_cons_of_mem _ hmem, rest', turns'',
          fun _ hr => List.mem_cons_of_mem _ (hrest hr), hsweep''⟩
  | panicked hget' _ hcall' =>
      obtain rfl := List.mem_singleton.mp ht
      obtain rfl := Option.some.inj (hget'.symm.trans hget)
      cases hcall'.symm.trans hcall

/-! ## Rounds -/

/-- A round in which something was ready, from the system that the wait left: the
    listener's handler, then the sweep over the note. Without a panic the answer is
    the number of ready descriptors, and the note stays for later rounds to reuse. -/
inductive Round (handlers : Handlers L C D) (ready : Nat) (noted : List Ready)
    (a : Application L C D) :
    List (Turn L C D) → Outcome L C D (Except Error Nat) → Prop
  | stopped {p : Panic} {b : Application L C D}
      (hlistener : handlers.callListener (a.noting noted) = .error p b) :
      Round handlers ready noted a [] (.error p b)
  | panicked {p : Panic} {b c : Application L C D} {turns : List (Turn L C D)}
      (hlistener : handlers.callListener (a.noting noted) = .ok () b)
      (hsweep : Sweep handlers noted (b.noting []) turns (.error p c)) :
      Round handlers ready noted a turns (.error p c)
  | finished {b c : Application L C D} {turns : List (Turn L C D)}
      (hlistener : handlers.callListener (a.noting noted) = .ok () b)
      (hsweep : Sweep handlers noted (b.noting []) turns (.ok () c)) :
      Round handlers ready noted a turns (.ok (.ok ready) (c.noting noted))

/-- The turns of a round are those noted, up to a panic, and its answer is their number with
    the listener's. -/
theorem Round.turns_ready {ready : Nat} {noted : List Ready} {turns : List (Turn L C D)}
    {outcome : Outcome L C D (Except Error Nat)} (h : Round handlers ready noted a turns outcome) :
    turns.map Turn.ready <+: noted
      ∧ ∀ answer b, outcome = .ok answer b → answer = .ok ready ∧ turns.map Turn.ready = noted := by
  cases h with
  | stopped _ => exact ⟨List.nil_prefix, fun _ _ hok => by cases hok⟩
  | panicked _ hsweep => exact ⟨hsweep.turns_ready.1, fun _ _ hok => by cases hok⟩
  | finished _ hsweep =>
      refine ⟨hsweep.turns_ready.1, ?_⟩
      rintro answer b ⟨⟩
      exact ⟨rfl, hsweep.turns_ready.2 _ rfl⟩

/-- What the listener's handler leaves behind, and every turn hands on, holds at each turn
    of a round and, but for the note, at its end. -/
theorem Round.steps {P : List Ready → Application L C D → Prop} {ready : Nat} {noted : List Ready}
    {turns : List (Turn L C D)} {outcome : Outcome L C D (Except Error Nat)}
    (h : Round handlers ready noted a turns outcome)
    (hlistener : ∃ b, handlers.callListener (a.noting noted) = .ok () b ∧ P noted (b.noting []))
    (hskip : ∀ r rest a, P (r :: rest) a → ¬ a.server.Live r.id → P rest a)
    (hcall : ∀ r rest a c, P (r :: rest) a → a.server.connections.get? r.fd = some c → c.id = r.id →
      ∃ b, handlers.call c r a = .ok () b ∧ P rest b) :
    (∀ t ∈ turns, ∃ rest, P (t.ready :: rest) t.before)
      ∧ ∃ b, outcome = .ok (.ok ready) (b.noting noted) ∧ P [] b := by
  obtain ⟨b, hlistened, hb⟩ := hlistener
  cases h with
  | stopped hstopped => cases hstopped.symm.trans hlistened
  | panicked hfirst hsweep =>
      cases hfirst.symm.trans hlistened
      obtain ⟨_, _, hok, _⟩ := hsweep.steps hskip hcall hb
      cases hok
  | finished hfirst hsweep =>
      cases hfirst.symm.trans hlistened
      obtain ⟨hturns, _, hok, hend⟩ := hsweep.steps hskip hcall hb
      cases hok
      exact ⟨hturns, _, rfl, hend⟩

/-- What writing a note and every call of a handler keep, a round keeps. -/
theorem Round.keeps {P : Application L C D → Prop} {ready : Nat} {noted : List Ready}
    {turns : List (Turn L C D)}
    {outcome : Outcome L C D (Except Error Nat)} (h : Round handlers ready noted a turns outcome)
    (hnote : ∀ a noted, P a → P (a.noting noted))
    (hlistener : ∀ a, P a → ∃ b, handlers.callListener a = .ok () b ∧ P b)
    (hcall : ∀ r ∈ noted, ∀ a c, P a → a.server.connections.get? r.fd = some c → c.id = r.id →
      ∃ b, handlers.call c r a = .ok () b ∧ P b)
    (ha : P a) : (∀ t ∈ turns, P t.before) ∧ ∃ b, outcome = .ok (.ok ready) b ∧ P b := by
  obtain ⟨b, hlistened, hb⟩ := hlistener _ (hnote a noted ha)
  obtain ⟨hturns, c, hok, _, hc⟩ := h.steps (P := fun rest a => rest ⊆ noted ∧ P a)
    ⟨b, hlistened, List.Subset.refl _, hnote b [] hb⟩
    (fun _ _ _ ha _ => ⟨List.subset_of_cons_subset ha.1, ha.2⟩) (Handlers.keeps_rest hcall)
  refine ⟨?_, c.noting noted, hok, hnote c noted hc⟩
  intro t ht
  obtain ⟨_, _, hbefore⟩ := hturns t ht
  exact hbefore

/-- The call of the listener returns or panics, after steps in either case. -/
theorem Handlers.Operate.callListener (h : handlers.Operate) (a : Application L C D) :
    (∃ b, handlers.callListener a = .ok () b ∧ Operated a b)
      ∨ ∃ p b, handlers.callListener a = .error p b ∧ Operated a b := by
  rw [Handlers.callListener]
  by_cases hempty : (a.server.polled.result 0).isEmpty = true
  · simp only [if_pos hempty]
    exact .inl ⟨a, rfl, .refl⟩
  · simp only [if_neg hempty]
    have htraced := Step.traced a s!"dispatch listener {(a.server.polled.result 0).inspect}"
    obtain ⟨b, hok, hsteps⟩ | ⟨p, b, herror, hsteps⟩ :=
      (h.onListen a.server.handler (a.server.polled.result 0)).cases
        (a.traced s!"dispatch listener {(a.server.polled.result 0).inspect}")
    · exact .inl ⟨b, hok, .head htraced hsteps⟩
    · exact .inr ⟨p, b, herror, .head htraced hsteps⟩

theorem Handlers.Move.callListener (h : handlers.Move)
    (hcall : handlers.callListener a = .ok () b) :
    Reaches a b := by
  rw [Handlers.callListener] at hcall
  by_cases hempty : (a.server.polled.result 0).isEmpty = true
  · simp only [if_pos hempty] at hcall
    cases hcall
    exact .refl
  · simp only [if_neg hempty] at hcall
    exact .head (.step (Step.traced a s!"dispatch listener {(a.server.polled.result 0).inspect}"))
      ((h.onListen a.server.handler (a.server.polled.result 0)).of_ok hcall)

/-- Every turn of a round begins in a reachable system. -/
theorem Round.reachable (hmove : handlers.Move) {ready : Nat} {noted : List Ready}
    {turns : List (Turn L C D)} {outcome : Outcome L C D (Except Error Nat)}
    (h : Round handlers ready noted a turns outcome) (hreach : Reachable a) :
    ∀ t ∈ turns, Reachable t.before := by
  have hlistened : ∀ b, handlers.callListener (a.noting noted) = .ok () b →
      Reachable (b.noting []) := by
    intro b hlistener
    exact ((hreach.of_moment (.note a noted)).of_reaches (hmove.callListener hlistener)).of_moment
      (.note b [])
  cases h with
  | stopped _ => exact fun _ ht => by cases ht
  | panicked hlistener hsweep => exact hsweep.reachable hmove (hlistened _ hlistener)
  | finished hlistener hsweep => exact hsweep.reachable hmove (hlistened _ hlistener)

namespace Server

/-- A panic of the listener's handler ends the round before any turn. -/
theorem serveNoted_of_stopped {noted : List Ready} {p : Panic}
    (hlistener : handlers.callListener (a.noting noted) = .error p b) :
    serveNoted handlers noted a = .error p b := by
  rw [serveNoted]
  show (dispatchListener handlers >>= _ : Run L C D Unit) (a.noting noted) = _
  exact bind_of_error ((dispatchListener_eq _).trans hlistener)

/-- What is noted when the listener's handler returns is served. -/
theorem serveNoted_of_listened {noted served : List Ready}
    (hlistener : handlers.callListener (a.noting noted) = .ok () b)
    (hserved : b.server.ready = served) :
    serveNoted handlers noted a
      = (dispatch handlers served >>= fun _ => onServer fun s =>
        { s with ready := served } : Run L C D Unit)
          (b.noting []) := by
  rw [serveNoted]
  show (dispatchListener handlers >>= _ : Run L C D Unit) (a.noting noted) = _
  rw [bind_of_ok ((dispatchListener_eq _).trans hlistener)]
  show (dispatch handlers b.server.ready >>= fun _ => onServer fun s =>
    { s with ready := b.server.ready } :
    Run L C D Unit) (b.noting []) = _
  rw [hserved]

end Server

/-- Serving what was noted in `w` is a round of it. -/
theorem serveNoted_rounds (hoperate : handlers.Operate) (hpaired : Paired w)
    (hidentified : Identified w)
    {noted : List Ready} (hnoted : ∀ r ∈ noted, ∃ x ∈ w.server.roster, x.key = r.fd ∧ x.id = r.id)
    (ready : Nat) :
    ∃ turns, Round handlers ready noted w turns
        ((Server.serveNoted handlers noted >>= fun _ => pure (.ok ready)) w)
      ∧ (∀ t ∈ turns, Since w t.before) ∧ turns.Pairwise fun t t' => Since t.before t'.before := by
  have hnoting : Since w (w.noting noted) := .of_note hpaired noted
  obtain ⟨b, hlistener, hsteps⟩ | ⟨p, b, hlistener, _⟩ := hoperate.callListener (w.noting noted)
  · have hb : Since w b := hnoting.trans (.of_operated hnoting.paired hsteps)
    have hcleared : Since w (b.noting []) := hb.trans (.of_note hb.paired [])
    -- handlers that run no rounds leave the note alone
    have hkept : b.server.ready = noted := Operated.ready hsteps
    have hserve := Server.serveNoted_of_listened hlistener hkept
    obtain ⟨turns, hsweep, hall, hpairs⟩ :=
      dispatch_sweeps hoperate.move hidentified hnoted hcleared
    refine ⟨turns, ?_, fun t ht => hcleared.trans (hall t ht), hpairs⟩
    cases hdispatch : Server.dispatch handlers noted (b.noting []) with
    | ok u c =>
        rw [hdispatch] at hsweep
        rw [bind_of_ok hdispatch] at hserve
        rw [bind_of_ok hserve]
        exact .finished hlistener hsweep
    | error p c =>
        rw [hdispatch] at hsweep
        rw [bind_of_error hdispatch] at hserve
        rw [bind_of_error hserve]
        exact .panicked hlistener hsweep
  · rw [bind_of_error (Server.serveNoted_of_stopped hlistener)]
    exact ⟨[], .stopped hlistener, (fun _ ht => by cases ht), .nil⟩

/-! ## The note -/

namespace Server

variable {s : Server L C} {entries : List PollEntry} {noted : List Ready}

/-- The note has the ready descriptors in the order of the set. -/
theorem notes_fd (hnoted : List.Forall₂ s.Notes entries noted) :
    noted.map Ready.fd = entries.map PollEntry.fd := by
  induction hnoted with
  | nil => rfl
  | cons hnote _ ih =>
      obtain ⟨c, _, rfl⟩ := hnote
      rw [List.map_cons, List.map_cons, ih]

/-- Whoever is noted was ready. -/
theorem notes_mem (hnoted : List.Forall₂ s.Notes entries noted) :
    ∀ r ∈ noted, ∃ e ∈ entries, s.Notes e r := by
  induction hnoted with
  | nil => exact fun _ hr => by cases hr
  | @cons e _ _ _ hnote _ ih =>
      intro r hr
      rcases List.mem_cons.mp hr with rfl | hr
      · exact ⟨e, List.mem_cons_self, hnote⟩
      · obtain ⟨e', he', hnote'⟩ := ih r hr
        exact ⟨e', List.mem_cons_of_mem _ he', hnote'⟩

/-- Whoever is noted sits at the table. -/
theorem notes_seat (hnoted : List.Forall₂ s.Notes entries noted) :
    ∀ r ∈ noted, ∃ x ∈ s.roster, x.key = r.fd ∧ x.id = r.id := by
  intro r hr
  obtain ⟨e, _, c, hget, rfl⟩ := notes_mem hnoted r hr
  exact ⟨_, mem_roster_of_get? hget, rfl, rfl⟩

end Server

/-- Nobody is noted twice. -/
theorem Paired.notes_fd_nodup (hpaired : Paired w) {noted : List Ready}
    (hnoted : List.Forall₂ w.server.Notes w.server.readyEntries noted) :
    (noted.map Ready.fd).Nodup := by
  rw [Server.notes_fd hnoted]
  exact hpaired.distinct.sublist
    ((List.filter_sublist.trans (List.drop_sublist _ _)).map PollEntry.fd)

/-- Nobody is noted twice. -/
theorem Paired.notes_nodup (hpaired : Paired w) (hidentified : Identified w) {noted : List Ready}
    (hnoted : List.Forall₂ w.server.Notes w.server.readyEntries noted) :
    (noted.map Ready.id).Nodup := by
  have hfds := hpaired.notes_fd_nodup hnoted
  -- entries differ in their descriptors; two of one id would share a seat
  refine hfds.of_map.map_on ?_
  intro r hr r' hr' hid
  obtain ⟨x, hx, hfd, hxid⟩ := Server.notes_seat hnoted r hr
  obtain ⟨x', hx', hfd', hxid'⟩ := Server.notes_seat hnoted r' hr'
  obtain rfl := hidentified.seat_eq hx hx' (hxid.trans (hid.trans hxid'.symm))
  exact List.inj_on_of_nodup_map hfds hr hr' (hfd.symm.trans hfd')

/-! ## The dispatch of one round -/

/-- A wait that succeeds changes the server in the results of its set only. -/
theorem Server.wait_ok {s s' : Server L C} {h h' : Host} {n : Nat}
    (hwait : s.wait h = (.ok n, s', h')) :
    ∃ polled, s.polled.wait h = (.ok n, polled, h') ∧ s' = { s with polled := polled } := by
  rw [Server.wait] at hwait
  rcases hset : s.polled.wait h with ⟨e | m, polled, h₁⟩
  · simp only [hset, Prod.mk.injEq] at hwait
    cases hwait.1
  · simp only [hset, Prod.mk.injEq, Except.ok.injEq] at hwait
    obtain ⟨rfl, rfl, rfl⟩ := hwait
    exact ⟨polled, rfl, rfl⟩

/-- A wait answers as long as there are not more entries than descriptors allowed. -/
theorem Server.wait_of_room {s : Server L C} {h : Host}
    (hroom : h.kernel.descriptorLimit.any (· < s.polled.toList.length) = false) :
    ∃ n s' h', s.wait h = (.ok n, s', h') := by
  obtain ⟨hover, _⟩ | ⟨_, p', h', hanswer, _⟩ := s.polled.wait_answers h
  · cases hover.symm.trans hroom
  · refine ⟨(p'.toList.filter fun e => !e.result.isEmpty).length, { s with polled := p' }, h', ?_⟩
    rw [Server.wait, hanswer]

/-- A wait that found something ready, and what it left. -/
theorem Server.wait_ready {s s' : Server L C} {h h' : Host} {n : Nat}
    (hwait : s.wait h = (.ok n, s', h')) :
    n = (s'.polled.toList.filter fun e => !e.result.isEmpty).length := by
  obtain ⟨_, hset, rfl⟩ := Server.wait_ok hwait
  exact (PollSet.wait_answered hset).2

/-- A round that finds nothing ready ends with its wait. -/
theorem Server.poll_of_nothing {s : Server L C} {h : Host} (hbound : a.server.isBound = true)
    (hwait : a.server.wait a.host = (.ok 0, s, h)) :
    Server.poll handlers a = .ok (.ok 0) { a with server := s, host := h } := by
  rw [Server.poll_of_bound hbound, bind_of_ok (run_eq hwait)]
  rfl

/-- A round that finds something ready serves what it notes. -/
theorem Server.poll_of_ready {s : Server L C} {h : Host} {n : Nat} {noted : List Ready}
    (hbound : a.server.isBound = true) (hwait : a.server.wait a.host = (.ok n, s, h)) (hn : 0 < n)
    (hready : s.readyConnections = .ok noted) :
    Server.poll handlers a
      = (Server.serveNoted handlers noted >>= fun _ => pure (.ok n))
        { a with server := s, host := h } := by
  obtain ⟨n, rfl⟩ : ∃ m, n = m + 1 := ⟨n - 1, by omega⟩
  rw [Server.poll_of_bound hbound, bind_of_ok (run_eq hwait)]
  exact bind_of_eq (Server.serveReady_of_ok hready)

/-- Which is a `Round`, if the handlers run none themselves. -/
theorem Reachable.rounds (hreach : Reachable a) (hbound : a.server.isBound = true)
    (hoperate : handlers.Operate)
    {n : Nat} {s : Server L C} {h : Host} (hwait : a.server.wait a.host = (.ok n, s, h))
    (hn : 0 < n) :
    ∃ noted turns, List.Forall₂ s.Notes s.readyEntries noted
      ∧ Round handlers n noted { a with server := s, host := h } turns
        (Server.poll handlers a) := by
  have hwoken : Reachable { a with server := s, host := h } := hreach.of_moment (.of_wait hwait)
  obtain ⟨noted, hready, hnoted⟩ := hwoken.paired.readyConnections
  obtain ⟨turns, hround, _⟩ :=
    serveNoted_rounds hoperate hwoken.paired hwoken.identified (Server.notes_seat hnoted) n
  rw [← Server.poll_of_ready hbound hwait hn hready] at hround
  exact ⟨noted, turns, hnoted, hround⟩

/-- A round ends with its wait, or is a `Round` over what the wait found. -/
theorem Reachable.poll_cases (hreach : Reachable a) (hbound : a.server.isBound = true)
    (hoperate : handlers.Operate)
    {answer : Except Error Nat} {s : Server L C} {h : Host}
    (hwait : a.server.wait a.host = (answer, s, h)) :
    Server.poll handlers a = .ok answer { a with server := s, host := h }
      ∨ ∃ n noted turns, answer = .ok n ∧ 0 < n ∧ List.Forall₂ s.Notes s.readyEntries noted
        ∧ Round handlers n noted { a with server := s, host := h } turns
          (Server.poll handlers a) := by
  obtain e | _ | n := answer
  · left
    rw [Server.poll_of_bound hbound, bind_of_ok (run_eq hwait)]
    rfl
  · exact .inl (Server.poll_of_nothing hbound hwait)
  · obtain ⟨noted, turns, hnoted, hround⟩ := hreach.rounds hbound hoperate hwait n.succ_pos
    exact .inr ⟨n + 1, noted, turns, rfl, n.succ_pos, hnoted, hround⟩

/-- The answer of a round is what its wait found, and with nothing found that is all. -/
theorem Reachable.poll_answered (hreach : Reachable a) (hoperate : handlers.Operate) {n : Nat}
    (hpoll : Server.poll handlers a = .ok (.ok n) b) :
    a.server.isBound = true ∧ ∃ s h, a.server.wait a.host = (.ok n, s, h)
      ∧ (n = 0 → b = { a with server := s, host := h }) := by
  cases hbound : a.server.isBound with
  | false => cases hpoll.symm.trans (Server.poll_of_unbound hbound)
  | true =>
      refine ⟨rfl, ?_⟩
      rcases hwait : a.server.wait a.host with ⟨answer, s, h⟩
      obtain hwaited | ⟨m, _, _, rfl, hm, _, hround⟩ := hreach.poll_cases hbound hoperate hwait
      · cases hpoll.symm.trans hwaited
        exact ⟨s, h, rfl, fun _ => rfl⟩
      · obtain ⟨hanswer, _⟩ := hround.turns_ready.2 _ b hpoll
        obtain rfl := Except.ok.inj hanswer
        exact ⟨s, h, rfl, fun hzero => absurd hzero (Nat.ne_of_gt hm)⟩

/-- A round of a bound server in which the wait found something ready. Noted are
    exactly the entries behind the listener's with a result, in the order of the
    set, with the ids of their connections, none twice; `n` is the number of all
    entries with a result. What follows is a `Round` over that note: the listener's
    handler is called once with its result exactly if it has one, and then each
    connection noted has one turn, in which its handler is called exactly if it is
    still live. Who is gone in one turn is gone in all later ones, and whoever came
    in during the round has an id that nobody noted has. -/
theorem poll_calls_ready (hreach : Reachable a) (hbound : a.server.isBound = true)
    (hoperate : handlers.Operate) {n : Nat} {s : Server L C} {h : Host}
    (hwait : a.server.wait a.host = (.ok n, s, h)) (hn : 0 < n) :
    ∃ noted turns,
      List.Forall₂ s.Notes s.readyEntries noted ∧ (noted.map Ready.id).Nodup
        ∧ n = (s.polled.toList.filter fun e => !e.result.isEmpty).length
        ∧ Round handlers n noted { a with server := s, host := h } turns (Server.poll handlers a)
        ∧ turns.map Turn.ready <+: noted
        ∧ (∀ answer b, Server.poll handlers a = .ok answer b →
            answer = .ok n ∧ turns.map Turn.ready = noted)
        ∧ (turns.Pairwise fun t t' =>
            ∀ r ∈ noted, ¬ t.before.server.Live r.id → ¬ t'.before.server.Live r.id)
        ∧ ∀ t ∈ turns, ∀ x ∈ t.before.server.roster,
            x ∈ s.roster ∨ x.id ∉ noted.map Ready.id := by
  obtain ⟨n, rfl⟩ : ∃ m, n = m + 1 := ⟨n - 1, by omega⟩
  have hwoken : Reachable { a with server := s, host := h } := by
    have hmoment := hreach.of_moment (.wait a)
    rw [after_run, hwait] at hmoment
    exact hmoment
  have hpaired := hwoken.paired
  have hidentified := hwoken.identified
  obtain ⟨noted, hready, hnoted⟩ := hpaired.readyConnections
  obtain ⟨turns, hround, hsince, hpairs⟩ :=
    serveNoted_rounds hoperate hpaired hidentified (Server.notes_seat hnoted) (n + 1)
  have hpoll : Server.poll handlers a
      = (Server.serveNoted handlers noted >>= fun _ => pure (.ok (n + 1)))
        { a with server := s, host := h } := by
    rw [Server.poll_of_bound hbound, bind_of_ok (run_eq hwait)]
    exact bind_of_eq (Server.serveReady_of_ok hready)
  rw [← hpoll] at hround
  -- ids that were given out before the round are never given out in it
  have hgiven : ∀ r ∈ noted, r.id < s.nextId := by
    intro r hr
    obtain ⟨x, hx, _, hxid⟩ := Server.notes_seat hnoted r hr
    exact hxid ▸ hidentified.below x hx
  refine ⟨noted, turns, hnoted, hpaired.notes_nodup hidentified hnoted, Server.wait_ready hwait,
    hround, hround.turns_ready.1, hround.turns_ready.2, ?_, ?_⟩
  · refine hpairs.imp_of_mem ?_
    intro t t' ht _ hlater r hr hgone
    exact hlater.gone (Nat.lt_of_lt_of_le (hgiven r hr) (hsince t ht).nextId) hgone
  · intro t ht x hx
    rcases (hsince t ht).origin x hx with hold | hnew
    · exact .inl hold
    · refine .inr ?_
      intro hmem
      obtain ⟨r, hr, hid⟩ := List.mem_map.mp hmem
      have hlt := hgiven r hr
      have hge : s.nextId ≤ x.id := hnew
      omega

/-- Handlers under which the listener puts the next client in the place of the first
    connection. -/
def Loopback.replacing : Handlers Unit Unit Unit where
  onListen := fun _ _ => do
    let _ ← run (·.disconnect 4)
    let _ ← run (·.accept ())
  onConnection := fun _ _ _ => pure ()

theorem Loopback.replacing_operate : Loopback.replacing.Operate where
  onListen := fun _ _ =>
    operates_bind (operates_of_step fun a => .disconnect a 4) fun _ =>
      operates_bind (operates_of_step fun a => .accept a ()) fun _ => operates_pure ()
  onConnection := fun _ _ _ => operates_pure ()

/-- One client accepted and one waiting, who takes over the descriptor of the first
    before it has its turn: both were ready, one connection is noted, and the round
    is as it has to be. -/
theorem poll_calls_ready_replacing :
    ∃ (app : Application Unit Unit Unit) (s : Server Unit Unit) (h : Host)
    (noted : List Ready) (turns : List (Turn Unit Unit Unit)),
    Loopback.serving? 2 1 = some app ∧ app.server.wait app.host = (.ok 2, s, h)
      ∧ List.Forall₂ s.Notes s.readyEntries noted
      ∧ Round Loopback.replacing 2 noted { app with server := s, host := h } turns
          (Server.poll Loopback.replacing app) := by
  have hserving : (Loopback.serving? 2 1).map (fun app =>
      (app.server.isBound, (app.server.wait app.host).1)) = some (true, .ok 2) := by decide +kernel
  obtain ⟨app, happ, hparts⟩ := Option.map_eq_some_iff.mp hserving
  obtain ⟨hbound, hanswer⟩ := Prod.mk.injEq _ _ _ _ ▸ hparts
  rcases hwait : app.server.wait app.host with ⟨answer, s, h⟩
  rw [hwait] at hanswer
  obtain rfl : answer = .ok 2 := hanswer
  obtain ⟨noted, turns, hnoted, _, _, hround, _⟩ :=
    poll_calls_ready (Loopback.serving_reachable happ) hbound
    Loopback.replacing_operate hwait (by decide)
  exact ⟨app, s, h, noted, turns, happ, hwait, hnoted, hround⟩

end EventLoop
