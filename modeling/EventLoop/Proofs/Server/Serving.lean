import EventLoop.Proofs.Server.Cleanup
import EventLoop.Proofs.Server.Waiting

/-! # Serving is rounds under guard

    A served loop asks its predicate and runs a round, in turns, until the predicate says
    no or a wait fails, while the world goes on around it. Predicate, handlers, world and
    server can all influence one another, so that nothing can be said about how many
    rounds there are; but whatever they do, the loop runs the rounds that `Rounds`
    describes and no others.

    * `serveCounted` is the loop with a tally of what it does, and `serveCounted_erased`
      says that the tally is all that it adds.
    * `Rounds.serveCounted`, by induction on the rounds: a loop in which so many of them
      succeed is where a loop begins that has what is left of the world before it.
    * `serveCounted_iff`: the outcome is one of those of `Course`, with the tally that
      belongs to it. Every loop has a course because it can be followed as far as its
      rounds go (`exists_rounds`, by induction on what the world does).
    * `poll_failed_iff`: a round fails before it calls anybody, so that what it leaves is
      what the last round left. With `Midway.of_closed`, which gives the outcome of a
      round in which the server was cleaned up, `serve_iterates` says how loops end. -/

namespace EventLoop

open Application

namespace Server

variable {L C D P : Type} {handlers : Handlers L C D} {allows : Server L C → D → P → Bool × P}
  {a b c : Application L C D} {p q r : P} {world before rest : List (Host → Host)}
  {act : Host → Host} {n : Nat} {e : Error} {panic : Panic}

/-! ## The loop with a tally -/

/-- How often a loop asked its predicate, and how many rounds it began. -/
structure Tally where
  checks : Nat
  polls : Nat
  deriving DecidableEq, Repr

namespace Tally

def check (t : Tally) : Tally := { t with checks := t.checks + 1 }

def poll (t : Tally) : Tally := { t with polls := t.polls + 1 }

/-- The tally after some checks that were each followed by a round. -/
def rounds (t : Tally) (m : Nat) : Tally := ⟨t.checks + m, t.polls + m⟩

theorem rounds_succ (t : Tally) (m : Nat) : t.check.poll.rounds m = t.rounds (m + 1) := by
  show (⟨t.checks + 1 + m, t.polls + 1 + m⟩ : Tally) = ⟨t.checks + (m + 1), t.polls + (m + 1)⟩
  rw [Nat.add_right_comm, Nat.add_right_comm t.polls]
  rfl

end Tally

/-- The loop of `serve`, which adds each check and each round to a tally. -/
def serveCounted (handlers : Handlers L C D) (allows : Server L C → D → P → Bool × P) :
    List (Host → Host) → Tally → P → Run L C D ((Ended × P) × Tally)
  | [], t, p => pure ((.unfinished, p), t)
  | act :: world, t, p => do
    modify (·.moved act)
    let app ← get
    match allows app.server app.data p with
    | (false, p) => return ((.stopped, p), t.check)
    | (true, p) =>
      match ← poll handlers with
      | .error e => return ((.failed e, p), t.check.poll)
      | .ok _ => serveCounted handlers allows world t.check.poll p

variable {t : Tally}

/-- The predicate does not see what the world does. -/
theorem serveCounted_cons : serveCounted handlers allows (act :: world) t p a
    = (match allows a.server a.data p with
      | (false, q) => pure ((.stopped, q), t.check)
      | (true, q) => poll handlers >>= fun answer =>
          match answer with
          | .error e => pure ((.failed e, q), t.check.poll)
          | .ok _ => serveCounted handlers allows world t.check.poll q
        : Run L C D ((Ended × P) × Tally)) (a.moved act) := by
  rw [serveCounted]
  rfl

/-- The predicate says no, and the loop ends after the check. -/
theorem serveCounted_stopped (hcheck : allows a.server a.data p = (false, q)) :
    serveCounted handlers allows (act :: world) t p a = .ok ((.stopped, q), t.check)
      (a.moved act) := by
  rw [serveCounted_cons, hcheck]
  rfl

/-- A check that allows a round is followed by it. -/
theorem serveCounted_allowed (hcheck : allows a.server a.data p = (true, q)) :
    serveCounted handlers allows (act :: world) t p a
      = (poll handlers >>= fun answer =>
          match answer with
          | .error e => pure ((.failed e, q), t.check.poll)
          | .ok _ => serveCounted handlers allows world t.check.poll q
        : Run L C D ((Ended × P) × Tally)) (a.moved act) := by
  rw [serveCounted_cons, hcheck]

/-- A round that fails ends the loop and is counted. -/
theorem serveCounted_failed (hcheck : allows a.server a.data p = (true, q))
    (hpoll : poll handlers (a.moved act) = .ok (.error e) b) :
    serveCounted handlers allows (act :: world) t p a = .ok ((.failed e, q), t.check.poll) b := by
  rw [serveCounted_allowed hcheck, bind_of_ok hpoll]
  rfl

/-- A panic ends everything. -/
theorem serveCounted_panicked (hcheck : allows a.server a.data p = (true, q))
    (hpoll : poll handlers (a.moved act) = .error panic b) :
    serveCounted handlers allows (act :: world) t p a = .error panic b := by
  rw [serveCounted_allowed hcheck, bind_of_error hpoll]

/-- After a round that succeeds the loop goes on with what is left of the world. -/
theorem serveCounted_next (hcheck : allows a.server a.data p = (true, q))
    (hpoll : poll handlers (a.moved act) = .ok (.ok n) b) :
    serveCounted handlers allows (act :: world) t p a = serveCounted handlers allows world
      t.check.poll q b := by
  rw [serveCounted_allowed hcheck, bind_of_ok hpoll]

/-- Without the tally it is the loop. -/
theorem serveCounted_erased (handlers : Handlers L C D) (allows : Server L C → D → P → Bool × P)
    (world : List (Host → Host)) :
    ∀ t p, Prod.fst <$> serveCounted handlers allows world t p = serve handlers allows world p := by
  -- on the acts of the world; the tally is handed on and looked at by nobody
  induction world with
  | nil => exact fun t p => rfl
  | cons act world ih =>
      intro t p
      rw [serve, serveCounted, map_bind]
      refine bind_congr fun _ => ?_
      rw [map_bind]
      refine bind_congr fun app => ?_
      rcases allows app.server app.data p with ⟨_ | _, q⟩
      · rfl
      · show Prod.fst <$> (poll handlers >>= _) = _
        rw [map_bind]
        refine bind_congr fun answer => ?_
        cases answer with
        | error e => rfl
        | ok n => exact ih t.check.poll q

/-! ## Rounds -/

/-- Rounds in a row that the predicate allows and that succeed, one after each of the given
    acts of the world. Each time the predicate sees server and data as they are then, and
    has the state that it left. -/
inductive Rounds (handlers : Handlers L C D) (allows : Server L C → D → P → Bool × P) :
    List (Host → Host) → P → Application L C D → P → Application L C D → Prop
  | none (p : P) (a : Application L C D) : Rounds handlers allows [] p a p a
  | next {act : Host → Host} {world : List (Host → Host)} {n : Nat} {p q r : P}
      {a b c : Application L C D}
      (hcheck : allows a.server a.data p = (true, q))
      (hpoll : poll handlers (a.moved act) = .ok (.ok n) b)
      (h : Rounds handlers allows world q b r c) : Rounds handlers allows (act :: world) p a r c

namespace Rounds

theorem concat (h : Rounds handlers allows before p a q b)
    (hcheck : allows b.server b.data q = (true, r))
    (hpoll : poll handlers (b.moved act) = .ok (.ok n) c) :
    Rounds handlers allows (before ++ [act]) p a r c := by
  induction h with
  | none p a => exact .next hcheck hpoll (.none r c)
  | next hfirst hround _ ih => exact .next hfirst hround (ih hcheck hpoll)

/-- The system is the one that the world and the rounds produce; the predicate has no part
    in it. -/
theorem foldl (h : Rounds handlers allows before p a q b) :
    b = before.foldl (fun x act => after (poll handlers) (x.moved act)) a := by
  induction h with
  | none p a => rfl
  | next _ hpoll _ ih => rw [ih, List.foldl_cons, after_eq_of_ok hpoll]

/-- A loop whose first rounds succeed goes on where they lead. -/
theorem serveCounted (h : Rounds handlers allows before p a q b) (rest : List (Host → Host))
    (t : Tally) :
    serveCounted handlers allows (before ++ rest) t p a
      = serveCounted handlers allows rest (t.rounds before.length) q b := by
  induction h generalizing t with
  | none p a => rfl
  | next hcheck hpoll _ ih =>
      rw [List.cons_append, serveCounted_next hcheck hpoll, ih, Tally.rounds_succ]; rfl

/-- From the start of the tally there have been as many checks as rounds. -/
theorem serveCounted_start (h : Rounds handlers allows before p a q b) (rest : List (Host → Host)) :
    Server.serveCounted handlers allows (before ++ rest) ⟨0, 0⟩ p a
      = Server.serveCounted handlers allows rest ⟨before.length, before.length⟩ q b := by
  rw [h.serveCounted, Tally.rounds, Nat.zero_add]

end Rounds

/-- A loop can be followed as far as its rounds go, or as far as the world does. -/
theorem exists_rounds (handlers : Handlers L C D) (allows : Server L C → D → P → Bool × P)
    (world : List (Host → Host)) :
    ∀ p a, ∃ before rest q b, world = before ++ rest ∧ Rounds handlers allows before p a q b
      ∧ ∀ act others, rest = act :: others → ∀ r n c, allows b.server b.data q = (true, r) →
          poll handlers (b.moved act) ≠ .ok (.ok n) c := by
  -- on the acts of the world: either a round succeeds or the rounds end here
  induction world with
  | nil => exact fun p a => ⟨[], [], p, a, rfl, .none p a, by rintro _ _ ⟨⟩⟩
  | cons act world ih =>
      intro p a
      by_cases hround : ∃ r n c, allows a.server a.data p = (true, r)
        ∧ poll handlers (a.moved act) = .ok (.ok n) c
      · obtain ⟨r, n, c, hcheck, hpoll⟩ := hround
        obtain ⟨before, rest, q, b, rfl, hrounds, hend⟩ := ih r c
        exact ⟨act :: before, rest, q, b, rfl, .next hcheck hpoll hrounds, hend⟩
      · refine ⟨[], act :: world, p, a, rfl, .none p a, ?_⟩
        rintro _ _ ⟨⟩ r n c hcheck hpoll
        exact hround ⟨r, n, c, hcheck, hpoll⟩

/-! ## The course of a loop -/

/-- What a loop comes to that the world goes along with for so long. -/
inductive Course (handlers : Handlers L C D) (allows : Server L C → D → P → Bool × P)
    (world : List (Host → Host))
    (p : P) (a : Application L C D) : Outcome L C D ((Ended × P) × Tally) → Prop
  /-- After so many rounds the predicate says no for the first time. -/
  | stopped {before rest : List (Host → Host)} {act : Host → Host} {q r : P} {b : Application L C D}
      (hworld : world = before ++ act :: rest) (h : Rounds handlers allows before p a q b)
      (hcheck : allows b.server b.data q = (false, r)) :
      Course handlers allows world p a
        (.ok ((.stopped, r), ⟨before.length + 1, before.length⟩) (b.moved act))
  /-- The round after so many is the first that fails. -/
  | failed {before rest : List (Host → Host)} {act : Host → Host} {q r : P}
      {b c : Application L C D} {e : Error}
      (hworld : world = before ++ act :: rest) (h : Rounds handlers allows before p a q b)
      (hcheck : allows b.server b.data q = (true, r))
      (hpoll : poll handlers (b.moved act) = .ok (.error e) c) :
      Course handlers allows world p a
        (.ok ((.failed e, r), ⟨before.length + 1, before.length + 1⟩) c)
  /-- The round after so many is the first in which a handler panics. -/
  | panicked {before rest : List (Host → Host)} {act : Host → Host} {q r : P}
      {b c : Application L C D}
      {panic : Panic} (hworld : world = before ++ act :: rest)
      (h : Rounds handlers allows before p a q b)
      (hcheck : allows b.server b.data q = (true, r))
      (hpoll : poll handlers (b.moved act) = .error panic c) :
      Course handlers allows world p a (.error panic c)
  | unfinished {q : P} {b : Application L C D} (h : Rounds handlers allows world p a q b) :
      Course handlers allows world p a (.ok ((.unfinished, q), ⟨world.length, world.length⟩) b)

variable {outcome : Outcome L C D ((Ended × P) × Tally)}

/-- The loop takes the course that is described. -/
theorem Course.serveCounted (h : Course handlers allows world p a outcome) :
    serveCounted handlers allows world ⟨0, 0⟩ p a = outcome := by
  cases h with
  | stopped hworld h hcheck =>
      rw [hworld, h.serveCounted_start, serveCounted_stopped hcheck]
      rfl
  | failed hworld h hcheck hpoll =>
      rw [hworld, h.serveCounted_start, serveCounted_failed hcheck hpoll]
      rfl
  | panicked hworld h hcheck hpoll =>
      rw [hworld, h.serveCounted_start, serveCounted_panicked hcheck hpoll]
  | unfinished h =>
      have hend := h.serveCounted_start []
      rw [List.append_nil] at hend
      exact hend

/-- Whatever predicate, handlers and world do, there is a course: the world's acts run out
    at the latest. -/
theorem exists_course (handlers : Handlers L C D) (allows : Server L C → D → P → Bool × P)
    (world : List (Host → Host)) (p : P) (a : Application L C D) :
    ∃ outcome, Course handlers allows world p a outcome := by
  obtain ⟨before, rest, q, b, hworld, hrounds, hend⟩ := exists_rounds handlers allows world p a
  cases rest with
  | nil =>
      rw [List.append_nil] at hworld
      subst hworld
      exact ⟨_, .unfinished hrounds⟩
  | cons act rest =>
      rcases hcheck : allows b.server b.data q with ⟨_ | _, r⟩
      · exact ⟨_, .stopped hworld hrounds hcheck⟩
      · rcases hpoll : poll handlers (b.moved act) with ⟨e | n, c⟩ | ⟨panic, c⟩
        · exact ⟨_, .failed hworld hrounds hcheck hpoll⟩
        · exact absurd hpoll (hend act rest rfl r n c hcheck)
        · exact ⟨_, .panicked hworld hrounds hcheck hpoll⟩

/-- There is no other course, so that the loop comes to an outcome exactly when a course
    does. -/
theorem serveCounted_iff :
    serveCounted handlers allows world ⟨0, 0⟩ p a = outcome
    ↔ Course handlers allows world p a outcome := by
  constructor
  · rintro rfl
    obtain ⟨outcome, hcourse⟩ := exists_course handlers allows world p a
    rwa [hcourse.serveCounted]
  · exact Course.serveCounted

/-! ## The last round -/

/-- Whoever is ready, and whatever is done about it, the answer is their number. -/
theorem poll_ne_failed {s : Server L C} {h : Host} (hbound : b.server.isBound = true)
    (hwait : b.server.wait b.host = (.ok n, s, h)) : poll handlers b ≠ .ok (.error e) c := by
  intro hpoll
  rw [poll_of_bound hbound, bind_of_ok (run_eq hwait)] at hpoll
  cases n with
  | zero => cases hpoll
  | succ n =>
      change (serveReady handlers >>= fun _ => pure (.ok (n + 1)) : Run L C D (Except Error Nat))
        _ = _ at hpoll
      cases hserve : serveReady handlers { b with server := s, host := h } with
      | ok _ d =>
          rw [bind_of_ok hserve] at hpoll
          cases hpoll
      | error _ d =>
          rw [bind_of_error hserve] at hpoll
          cases hpoll

/-- A round that begins in `b` fails and leaves `c`. -/
inductive Fails (b : Application L C D) : Error → Application L C D → Prop
  /-- The wait is refused, and nothing happens but a message in the log. -/
  | refused {e : Error} (hbound : b.server.isBound = true)
      (hwait : (b.server.polled.wait b.host).1 = .error e) :
      Fails b e { b with host := b.host.log .error s!"poll: {e.message}" }
  /-- The server was cleaned up, and nothing happens at all. -/
  | unbound (hbound : b.server.isBound = false) : Fails b .notBound b

/-- Only before its first call can a round fail, whatever its handlers are. -/
theorem poll_failed_iff : poll handlers b = .ok (.error e) c ↔ Fails b e c := by
  constructor
  · intro hpoll
    cases hbound : b.server.isBound with
    | false =>
        rw [poll_of_unbound hbound] at hpoll
        cases hpoll
        exact .unbound hbound
    | true =>
        rcases hwait : b.server.polled.wait b.host with ⟨refused | n, polled, h⟩
        · have hrefused : (b.server.polled.wait b.host).1 = .error refused :=
            congrArg Prod.fst hwait
          rw [poll_of_refused hbound hrefused] at hpoll
          cases hpoll
          exact .refused hbound hrefused
        · have hserver : b.server.wait b.host = (.ok n, { b.server with polled := polled }, h) := by
            rw [wait, hwait]
          exact absurd hpoll (poll_ne_failed hbound hserver)
  · intro hfails
    cases hfails with
    | refused hbound hwait => exact poll_of_refused hbound hwait handlers
    | unbound hbound => exact poll_of_unbound hbound

/-- A loop whose server is gone ends at the next check, and if that allows it, by the
    round after it. -/
theorem serveCounted_of_unbound (hbound : a.server.isBound = false) :
    serveCounted handlers allows (act :: world) t p a
      = match allows a.server a.data p with
        | (true, q) => .ok ((.failed .notBound, q), t.check.poll) (a.moved act)
        | (false, q) => .ok ((.stopped, q), t.check) (a.moved act) := by
  rcases hcheck : allows a.server a.data p with ⟨_ | _, q⟩
  · exact serveCounted_stopped hcheck
  · exact serveCounted_failed hcheck (poll_of_unbound (a := a.moved act) hbound)

/-- A loop is what its predicate, its rounds and the world around them make of it, and nothing
    more: after some rounds that the predicate allows and that succeed, it says no, or a
    round fails. A round that fails leaves the server as it was. After one in which the
    server was cleaned up, whoever did it and whatever was tried later, the predicate stops
    the loop or the next round fails. -/
theorem serve_iterates (handlers : Handlers L C D) (allows : Server L C → D → P → Bool × P) (p : P)
    (a : Application L C D) :
    (∀ world, Prod.fst <$> serveCounted handlers allows world ⟨0, 0⟩ p
        = serve handlers allows world p)
      ∧ (∀ world outcome, serveCounted handlers allows world ⟨0, 0⟩ p a = outcome
          ↔ Course handlers allows world p a outcome)
      ∧ ∀ before q b, Rounds handlers allows before p a q b →
          b = before.foldl (fun x act => after (poll handlers) (x.moved act)) a
            ∧ (∀ act e c, poll handlers (b.moved act) = .ok (.error e) c ↔ Fails (b.moved act) e c)
            ∧ ∀ act r x c n served rest, allows b.server b.data q = (true, r) →
              Reaches (cleaned x) c →
                Midway handlers (b.moved act) n served rest c →
                  let last := c.noting (served ++ rest)
                  Rounds handlers allows (before ++ [act]) p a r last
                    ∧ ∀ next world,
                      serveCounted handlers allows (before ++ act :: next :: world) ⟨0, 0⟩ p a
                        = match allows last.server last.data r with
                          | (true, s) => .ok ((.failed .notBound, s),
                                ⟨before.length + 2, before.length + 2⟩)
                              (last.moved next)
                          | (false, s) => .ok ((.stopped, s),
                                ⟨before.length + 2, before.length + 1⟩)
                              (last.moved next) := by
  refine ⟨fun world => serveCounted_erased handlers allows world ⟨0, 0⟩ p,
    fun world outcome => serveCounted_iff, fun before q b hrounds => ?_⟩
  refine ⟨hrounds.foldl, fun act e c => poll_failed_iff, ?_⟩
  intro act r x c n served rest hcheck hreach hmidway last
  -- nothing brings the server back, so the next round, if there is one, is not bound
  have hclosed : c.server.Closed := hreach.closed (x.server.cleanup_closed x.host)
  have hnext : Rounds handlers allows (before ++ [act]) p a r last :=
    hrounds.concat hcheck (hmidway.of_closed hclosed)
  refine ⟨hnext, fun next world => ?_⟩
  rw [List.append_cons, hnext.serveCounted_start, List.length_append,
    serveCounted_of_unbound (show last.server.isBound = false from hclosed.isBound)]
  rfl

end Server

/-- Handlers under which the first client to come ends the server. -/
def Loopback.closing : Handlers Unit Unit Unit where
  onListen := fun _ _ => run fun s h => ((), s.cleanup h)
  onConnection := fun _ _ _ => pure ()

/-- A client connects to an address. -/
def Loopback.arriving (address : Address) (h : Host) : Host :=
  { h with kernel := (h.kernel.connect address).2 }

/-- Nobody comes before the first round and a client before the second, which ends the server:
    the predicate, which counts, allows one more round, which fails, or says no. Where
    nothing may be waited on any more, the first round fails and the server stays as it was. -/
theorem serve_iterates_closing :
    ∃ (app last : Application Unit Unit Unit) (arrives : Host → Host) (h : Host),
    Loopback.serving? 0 0 = some app ∧ arrives = Loopback.arriving app.server.localAddress
      ∧ last.server.isBound = false
      ∧ Server.serveCounted Loopback.closing (fun _ _ k => (true, k + 1))
          [id, arrives, id, id] ⟨0, 0⟩ 0 app
        = .ok ((.failed .notBound, 3), ⟨3, 3⟩) last
      ∧ Server.serveCounted Loopback.closing (fun _ _ k => (decide (k < 2), k + 1))
          [id, arrives, id, id] ⟨0, 0⟩ 0 app
        = .ok ((.stopped, 3), ⟨3, 2⟩) last
      ∧ Server.serveCounted Loopback.closing (fun _ _ k => (true, k + 1))
          [(Host.limited · ⟨some 0, false, none⟩)] ⟨0, 0⟩ 0 app
        = .ok ((.failed (.os "poll" .invalidArgument), 1), ⟨1, 1⟩) { app with host := h } := by
  -- the three loops by evaluation, each with the world that it has
  have hidled :
      (Loopback.serving? 0 0).map (fun app => (app.server.isBound, (app.server.wait app.host).1))
      = some (true, .ok 0) := by decide +kernel
  have hwoken : (Loopback.serving? 0 0).map (fun app =>
      (fun woken => (woken.1, woken.2.1.readyConnections, (woken.2.1.polled.result 0).isEmpty))
        ((app.server.wait app.host).2.1.wait
          (Loopback.arriving app.server.localAddress (app.server.wait app.host).2.2)))
      = some (.ok 1, .ok [], false) := by decide +kernel
  have hlimited : (Loopback.serving? 0 0).map (fun app =>
      (app.server.polled.wait (app.host.limited ⟨some 0, false, none⟩)).1)
      = some (.error (.os "poll" .invalidArgument)) := by decide +kernel
  obtain ⟨app, happ, hparts⟩ := Option.map_eq_some_iff.mp hidled
  rw [happ] at hwoken hlimited
  have hcalls := Option.some.inj hwoken
  have hrefused := Option.some.inj hlimited
  rcases hidle : app.server.wait app.host with ⟨_, s₀, h₀⟩
  rcases hwait : s₀.wait (Loopback.arriving app.server.localAddress h₀) with ⟨_, s, h⟩
  simp only [hidle, hwait, Prod.mk.injEq] at hparts hcalls
  obtain ⟨hbound, rfl⟩ := hparts
  obtain ⟨rfl, hnoted, hready⟩ := hcalls
  have hbound₀ : s₀.isBound = true := by
    obtain ⟨polled, rfl, _⟩ := Server.wait_cases hidle
    exact hbound
  -- in the first round nobody is ready
  have hfirst : Server.poll Loopback.closing (app.moved id) = .ok (.ok 0)
    { app with server := s₀, host := h₀ } := by
    rw [Server.poll_of_bound (a := app.moved id) hbound,
      bind_of_ok (run_eq (a := app.moved id) hidle)]
    rfl
  -- in the second it is the listener, whose handler cleans up
  obtain ⟨start, hstart⟩ : ∃ start, start = ({ app with server := s₀, host := h₀ } :
    Application Unit Unit Unit).moved (Loopback.arriving app.server.localAddress) := ⟨_, rfl⟩
  have hcomes : start.server.wait start.host = (.ok 1, s, h) := by
    rw [hstart]
    exact hwait
  obtain ⟨x, hlistener⟩ : ∃ x, Loopback.closing.callListener
      { start with server := { s with ready := [] }, host := h } = .ok () (cleaned x) := by
    refine ⟨({ start with server := { s with ready := [] }, host := h } : Application Unit
      Unit Unit).traced
      s!"dispatch listener {(s.polled.result 0).inspect}", ?_⟩
    rw [Handlers.callListener]
    simp only [hready]
    rfl
  have hmidway := Server.Midway.listened (hstart ▸ hbound₀) hcomes (by decide) hnoted hlistener
  rw [hstart] at hmidway
  have hreach : Reaches x.cleaned (x.cleaned.noting []) := .single (.note _ [])
  -- the second check allows the round in which the client comes
  obtain ⟨_, hgoes⟩ :=
    ((Server.serve_iterates Loopback.closing (fun _ _ k => (true, k + 1)) 0 app).2.2
    [id] 1 _ (.next rfl hfirst (.none 1 _))).2.2 _ 2 x _ 1 [] _ rfl hreach hmidway
  obtain ⟨_, hstops⟩ :=
    ((Server.serve_iterates Loopback.closing (fun _ _ k => (decide (k < 2), k + 1)) 0 app).2.2
    [id] 1 _ (.next rfl hfirst (.none 1 _))).2.2 _ 2 x _ 1 [] _ rfl hreach hmidway
  obtain ⟨_, hcourse, _⟩ :=
    Server.serve_iterates Loopback.closing (fun _ _ k => (true, k + 1)) 0 app
  have hfails := Server.poll_of_refused (a := app.moved (Host.limited · ⟨some 0, false, none⟩))
    hbound hrefused Loopback.closing
  have honly : [(Host.limited · ⟨some 0, false, none⟩)] = []
      ++ [(Host.limited · ⟨some 0, false, none⟩)] := rfl
  refine ⟨app, _, _, _, happ, rfl, ?_, hgoes id [id], hstops id [id],
    (hcourse _ _).mpr (.failed honly (.none _ _) rfl hfails)⟩
  exact (x.server.cleanup_closed x.host).isBound

end EventLoop
