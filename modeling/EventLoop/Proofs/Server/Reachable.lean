import EventLoop.Server.Session
import EventLoop.Proofs.Server.Effects
import Mathlib.Logic.Relation

/-! # The systems a server can get into

    What a program does to a server is a sequence of steps (`Step`): it accepts,
    disconnects, changes interests, cleans up, sets the timeout and the handler of
    the listener, keeps data, and uses a connection, while the world around
    it goes on. A round adds to that what it does itself: it waits and writes down
    who is ready (`Moment`).

    * `Operated a b`: steps lead from `a` to `b`. This is what a handler can do
      that runs no rounds (`Handlers.Operate`).
    * `Reachable a`: moments lead from a server that was just bound to `a`. The
      systems between rounds are among these, and so are those in the middle of one.
    * Handlers are called in turns (`turn`); a round is a wait, a note, the call of
      the listener's handler and one turn for each connection noted. -/

namespace EventLoop

namespace Application

variable {L C D α β : Type}

/-- The system that an activity leaves, also when it panics. -/
def after (act : Run L C D α) (app : Application L C D) : Application L C D :=
  match act app with
  | .ok _ b => b
  | .error _ b => b

/-- An activity that returns leaves the system that it returns. -/
theorem after_eq_of_ok {act : Run L C D α} {a b : Application L C D} {x : α} (h : act a = .ok x b) :
    after act a = b := by
  rw [after, h]

theorem after_eq_of_error {act : Run L C D α} {a b : Application L C D} {p : Panic}
    (h : act a = .error p b) : after act a = b := by
  rw [after, h]

/-- After an activity that returns comes the next one. -/
theorem bind_of_ok {act : Run L C D α} {f : α → Run L C D β} {a b : Application L C D} {x : α}
    (h : act a = .ok x b) : (act >>= f) a = f x b := by
  show EStateM.bind act f a = f x b
  rw [EStateM.bind, h]

theorem bind_of_error {act : Run L C D α} {f : α → Run L C D β}
    {a b : Application L C D} {p : Panic}
    (h : act a = .error p b) : (act >>= f) a = .error p b := by
  show EStateM.bind act f a = .error p b
  rw [EStateM.bind, h]

theorem bind_of_eq {act act' : Run L C D α} {f : α → Run L C D β} {a a' : Application L C D}
    (h : act a = act' a') : (act >>= f) a = (act' >>= f) a' := by
  show EStateM.bind act f a = EStateM.bind act' f a'
  rw [EStateM.bind, EStateM.bind, h]

theorem after_bind_of_ok {act : Run L C D α} {f : α → Run L C D β} {a b : Application L C D} {x : α}
    (h : act a = .ok x b) : after (act >>= f) a = after (f x) b := by
  rw [after, bind_of_ok h, after]

theorem get_bind (f : Application L C D → Run L C D β) (a : Application L C D) :
    ((get : Run L C D (Application L C D)) >>= f) a = f a a := rfl

theorem run_eq {f : Server L C → Host → α × Server L C × Host} {a : Application L C D} {x : α}
    {s : Server L C} {h : Host} (hf : f a.server a.host = (x, s, h)) :
    run f a = .ok x { a with server := s, host := h } := by
  show EStateM.Result.ok (f a.server a.host).1
    { a with server := (f a.server a.host).2.1, host := (f a.server a.host).2.2 } = _
  rw [hf]

theorem after_run (f : Server L C → Host → α × Server L C × Host) (a : Application L C D) :
    after (run f) a
      = { a with server := (f a.server a.host).2.1, host := (f a.server a.host).2.2 } := rfl

end Application

open Application

/-! ## Steps of a program -/

variable {L C D : Type}

/-- What a program can do to a server between rounds or in a handler, and what the
    world does meanwhile. Nobody but the program closes its descriptors. -/
inductive Step : Application L C D → Application L C D → Prop
  | accept (a : Application L C D) (handler : C) : Step a (after (run (·.accept handler)) a)
  | disconnect (a : Application L C D) (fd : Descriptor) : Step a (after (run (·.disconnect fd)) a)
  | setInterest (a : Application L C D) (fd : Descriptor) (interest : EventMask) :
      Step a (after (Session.setInterest ⟨fd⟩ interest) a)
  | cleanup (a : Application L C D) : Step a (after (run fun s h => ((), s.cleanup h)) a)
  | setTimeout (a : Application L C D) (timeout : Int) :
      Step a (after (onServer (·.setTimeout timeout)) a)
  | setHandler (a : Application L C D) (handler : L) :
      Step a (after (onServer fun s => { s with handler := handler }) a)
  | keep (a : Application L C D) (userData : Option UserData) :
      Step a (after (onServer fun s => { s with userData := userData }) a)
  /-- A connection is used: buffers, tag, handler and data may change, and the host
      with them. -/
  | use (a : Application L C D) {fd : Descriptor} {f : Connection C → Connection C} {h : Host}
      (hkept : ∀ c, a.server.connections.get? fd = some c → (f c).id = c.id
        ∧ (f c).socket = c.socket)
      (hopen : a.host.openDescriptors ⊆ h.openDescriptors) :
      Step a { a with server := a.server.onConnection fd f, host := h }
  /-- The world goes on: clients come, send and leave, and the program opens files of
      its own. -/
  | world (a : Application L C D) {h : Host} (hopen : a.host.openDescriptors ⊆ h.openDescriptors) :
      Step a { a with host := h }
  | data (a : Application L C D) (data : D) : Step a { a with data := data }

/-- Steps of a program lead from one system to another. -/
def Operated : Application L C D → Application L C D → Prop := Relation.ReflTransGen Step

/-- What can happen to a system: a step of the program, or what a round does by
    itself. -/
inductive Moment : Application L C D → Application L C D → Prop
  | step {a b : Application L C D} (h : Step a b) : Moment a b
  | wait (a : Application L C D) : Moment a (after (run Server.wait) a)
  | note (a : Application L C D) (noted : List Ready) :
      Moment a (after (onServer fun s => { s with ready := noted }) a)

theorem Moment.of_wait {a : Application L C D} {r : Except Error Nat} {s : Server L C} {h : Host}
    (hwait : a.server.wait a.host = (r, s, h)) : Moment a { a with server := s, host := h } := by
  have hmoment := Moment.wait a
  rwa [after_run, hwait] at hmoment

/-- Moments lead from one system to another. -/
def Reaches : Application L C D → Application L C D → Prop := Relation.ReflTransGen Moment

theorem Operated.reaches {a b : Application L C D} (h : Operated a b) : Reaches a b := by
  induction h with
  | refl => exact .refl
  | tail _ hstep ih => exact ih.tail (.step hstep)

/-- A system that a program can have after it bound a server: between rounds, and
    at any point of a round. -/
def Reachable (app : Application L C D) : Prop :=
  ∃ address handler config h s h' data,
    Server.bind address handler config h = ((.ok s, h') : Except Error (Server L C) × Host)
      ∧ Reaches ⟨s, h', data⟩ app

theorem Reachable.of_reaches {a b : Application L C D} (ha : Reachable a) (hab : Reaches a b) :
    Reachable b := by
  obtain ⟨address, handler, config, h, s, h', data, hbind, hreach⟩ := ha
  exact ⟨address, handler, config, h, s, h', data, hbind, hreach.trans hab⟩

theorem Reachable.of_moment {a b : Application L C D} (ha : Reachable a) (hab : Moment a b) :
    Reachable b := ha.of_reaches (.single hab)

theorem Reachable.of_operated {a b : Application L C D} (ha : Reachable a) (hab : Operated a b) :
    Reachable b := ha.of_reaches hab.reaches

/-- What holds of every new server and survives every moment holds of every
    reachable system. -/
theorem Reachable.induction {P : Application L C D → Prop} {app : Application L C D}
    (happ : Reachable app) (hnew : ∀ s h data, s.Fresh h → P ⟨s, h, data⟩)
    (hmoment : ∀ a b, P a → Moment a b → P b) : P app := by
  obtain ⟨_, _, _, _, s, h', data, hbind, hreach⟩ := happ
  -- on the moments since the server was bound
  induction hreach with
  | refl => exact hnew s h' data (Server.bind_fresh hbind)
  | tail _ hlast ih => exact hmoment _ _ ih hlast

/-- Paths of two activities make a path of both; a panic of the first ends it
    early. -/
theorem path_bind {S : Application L C D → Application L C D → Prop} {α β : Type}
    {act : Run L C D α} {f : α → Run L C D β} (hact : ∀ a, Relation.ReflTransGen S a (after act a))
    (hf : ∀ x a, Relation.ReflTransGen S a (after (f x) a)) (a : Application L C D) :
    Relation.ReflTransGen S a (after (act >>= f) a) := by
  have hfirst := hact a
  -- a panic of the first activity is the outcome of both
  cases hresult : act a with
  | ok x b =>
      rw [after_eq_of_ok hresult] at hfirst
      rw [after_bind_of_ok hresult]
      exact hfirst.trans (hf x b)
  | error p b =>
      rw [after_eq_of_error hresult] at hfirst
      rw [after_eq_of_error (bind_of_error hresult)]
      exact hfirst

/-! ## Handlers that run no rounds -/

/-- Wherever an activity starts, steps of a program lead to what it leaves. -/
def Operates {α : Type} (act : Run L C D α) : Prop := ∀ a, Operated a (after act a)

/-- Handlers whose calls are steps of a program, panicking or not. -/
structure Handlers.Operate (handlers : Handlers L C D) : Prop where
  onListen : ∀ l events, Operates (handlers.onListen l events)
  onConnection : ∀ c fd events, Operates (handlers.onConnection c fd events)

/-- An activity made of steps returns or panics, after steps in either case. -/
theorem Operates.cases {act : Run L C D Unit} (h : Operates act) (a : Application L C D) :
    (∃ b, act a = .ok () b ∧ Operated a b) ∨ ∃ p b, act a = .error p b ∧ Operated a b := by
  have hsteps := h a
  cases hresult : act a with
  | ok u b =>
      rw [after_eq_of_ok hresult] at hsteps
      exact .inl ⟨b, rfl, hsteps⟩
  | error p b =>
      rw [after_eq_of_error hresult] at hsteps
      exact .inr ⟨p, b, rfl, hsteps⟩

theorem operates_pure {α : Type} (x : α) : Operates (pure x : Run L C D α) := fun _ => .refl

/-- One step makes an activity. -/
theorem operates_of_step {α : Type} {act : Run L C D α} (h : ∀ a, Step a (after act a)) :
    Operates act :=
  fun a => .single (h a)

/-- Activities made of steps can follow each other. -/
theorem operates_bind {α β : Type} {act : Run L C D α} {f : α → Run L C D β} (hact : Operates act)
    (hf : ∀ x, Operates (f x)) : Operates (act >>= f) := path_bind hact hf

/-! ## Handlers that may run rounds -/

/-- Wherever an activity starts, moments lead to what it leaves. -/
def Moves {α : Type} (act : Run L C D α) : Prop := ∀ a, Reaches a (after act a)

/-- Handlers whose calls are moments, panicking or not: they may run rounds. -/
structure Handlers.Move (handlers : Handlers L C D) : Prop where
  onListen : ∀ l events, Moves (handlers.onListen l events)
  onConnection : ∀ c fd events, Moves (handlers.onConnection c fd events)

/-- An activity made of steps is made of moments. -/
theorem Operates.moves {α : Type} {act : Run L C D α} (h : Operates act) : Moves act :=
  fun a => (h a).reaches

/-- Handlers that take steps only start no rounds, and are a case of those that may. -/
theorem Handlers.Operate.move {handlers : Handlers L C D} (h : handlers.Operate) :
    handlers.Move where
  onListen := fun l events => (h.onListen l events).moves
  onConnection := fun c fd events => (h.onConnection c fd events).moves

/-- An activity that returns has reached what it returns. -/
theorem Moves.of_ok {α : Type} {act : Run L C D α} {a b : Application L C D} {x : α} (h : Moves act)
    (hok : act a = .ok x b) : Reaches a b := by
  have hreach := h a
  rwa [after_eq_of_ok hok] at hreach

/-- Activities made of moments can follow each other. -/
theorem moves_bind {α β : Type} {act : Run L C D α} {f : α → Run L C D β} (hact : Moves act)
    (hf : ∀ x, Moves (f x)) : Moves (act >>= f) := path_bind hact hf

theorem moves_pure {α : Type} (x : α) : Moves (pure x : Run L C D α) := fun _ => .refl

theorem moves_get : Moves (get : Run L C D (Application L C D)) := fun _ => .refl

/-- One moment makes an activity. -/
theorem moves_of_moment {α : Type} {act : Run L C D α} (h : ∀ a, Moment a (after act a)) :
    Moves act :=
  fun a => .single (h a)

/-- Logging is something that happens. -/
theorem moves_log (level : Log.Level) (message : String) :
    Moves (log level message : Run L C D Unit) :=
  fun a => .single (.step (.world a (h := a.host.log level message) fun _ hfd => hfd))

/-! ## Rounds -/

namespace Server

variable {handlers : Handlers L C D}

/-- The turn of a ready connection: its handler is called, if the connection is
    still there. -/
def turn (handlers : Handlers L C D) (r : Ready) : Run L C D Unit := fun a =>
  match a.server.connections.get? r.fd with
  | some c =>
    if c.id = r.id then
      (do log .trace s!"dispatch fd {r.fd} {r.events.inspect}"
          handlers.onConnection c.handler r.fd r.events : Run L C D Unit) a
    else .ok () a
  | none => .ok () a

/-- The ready connections have their turns one after the other. -/
theorem dispatch_cons (r : Ready) (rest : List Ready) :
    dispatch handlers (r :: rest) = turn handlers r >>= fun _ => dispatch handlers rest := by
  rw [dispatch]
  -- the rest of the list is shared by the branches, so that both sides are run first
  funext a
  show _ = EStateM.bind (turn handlers r) _ a
  rw [EStateM.bind, turn]
  rw [get_bind]
  cases a.server.connections.get? r.fd with
  | none => rfl
  | some c =>
      by_cases hid : c.id = r.id
      · simp only [if_pos hid]
        rfl
      · simp only [if_neg hid]

/-- What a round does once the ready connections are known. -/
def serveNoted (handlers : Handlers L C D) (noted : List Ready) : Run L C D Unit := do
  onServer fun s => { s with ready := noted }
  dispatchListener handlers
  let served ← get
  onServer fun s => { s with ready := [] }
  dispatch handlers served.server.ready
  onServer fun s => { s with ready := served.server.ready }

/-- The rest of a round serves those that were found ready. -/
theorem serveReady_of_ok {a : Application L C D} {noted : List Ready}
    (h : a.server.readyConnections = .ok noted) :
    serveReady handlers a = serveNoted handlers noted a := by
  rw [serveReady, get_bind, h]
  rfl

/-- Where somebody is ready whom the table does not know, the round panics. -/
theorem serveReady_of_error {a : Application L C D} {p : Panic}
    (h : a.server.readyConnections = .error p) :
    serveReady handlers a = .error p a := by
  rw [serveReady, get_bind, h]
  rfl

/-- A server without a listener runs no rounds. -/
theorem poll_of_unbound {a : Application L C D} (hbound : a.server.isBound = false) :
    poll handlers a = .ok (.error .notBound) a := by
  rw [poll, get_bind, hbound]
  rfl

/-- A round of a bound server waits, and serves who is ready unless nobody is. -/
theorem poll_of_bound {a : Application L C D} (hbound : a.server.isBound = true) :
    poll handlers a = (run wait >>= fun answer =>
      match answer with
      | .error e => pure (.error e)
      | .ok 0 => pure (.ok 0)
      | .ok n => serveReady handlers >>= fun _ => pure (.ok n) :
            Run L C D (Except Error Nat)) a := by
  rw [poll, get_bind, hbound]
  rfl

/-! ## Rounds are moments -/

/-- A turn is made of moments, if the handlers are. -/
theorem turn_moves (h : handlers.Move) (r : Ready) : Moves (turn handlers r) := by
  intro a
  rw [after, turn]
  cases a.server.connections.get? r.fd with
  | none => exact .refl
  | some c =>
      by_cases hid : c.id = r.id
      · simp only [if_pos hid]
        exact moves_bind (moves_log _ _) (fun _ => h.onConnection c.handler r.fd r.events) a
      · simp only [if_neg hid]
        exact .refl

theorem dispatch_moves (h : handlers.Move) (noted : List Ready) :
    Moves (dispatch handlers noted) := by
  induction noted with
  | nil => exact moves_pure ()
  | cons r rest ih =>
      rw [dispatch_cons]
      exact moves_bind (turn_moves h r) fun _ => ih

theorem dispatchListener_moves (h : handlers.Move) : Moves (dispatchListener handlers) := by
  refine moves_bind moves_get ?_
  intro app
  by_cases hready : (!(app.server.polled.result 0).isEmpty) = true
  · simp only [if_pos hready]
    exact moves_bind (moves_log _ _) fun _ => h.onListen _ _
  · simp only [if_neg hready]
    exact moves_pure ()

theorem serveReady_moves (h : handlers.Move) : Moves (serveReady handlers) := by
  intro a
  have hnote : ∀ noted, Moves (onServer fun s => { s with ready := noted } : Run L C D Unit) :=
    fun noted => moves_of_moment fun a => .note a noted
  cases hready : a.server.readyConnections with
  | error p =>
      rw [after_eq_of_error (serveReady_of_error hready)]
      exact .refl
  | ok noted =>
      rw [after, serveReady_of_ok hready]
      refine moves_bind (hnote noted) (fun _ => ?_) a
      refine moves_bind (dispatchListener_moves h) fun _ => ?_
      refine moves_bind moves_get fun served => ?_
      refine moves_bind (hnote []) fun _ => ?_
      exact moves_bind (dispatch_moves h _) fun _ => hnote _

/-- Handlers that may run rounds may be called in the rounds that they run. -/
theorem poll_moves (h : handlers.Move) : Moves (poll handlers) := by
  intro a
  cases hbound : a.server.isBound with
  | false =>
      rw [after_eq_of_ok (poll_of_unbound hbound)]
      exact .refl
  | true =>
      rw [after, poll_of_bound hbound]
      refine moves_bind (moves_of_moment fun a => .wait a) ?_ a
      rintro (e | n | n)
      · exact moves_pure _
      · exact moves_pure _
      · exact moves_bind (serveReady_moves h) fun _ => moves_pure _

end Server

end EventLoop
