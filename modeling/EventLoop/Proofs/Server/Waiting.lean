import EventLoop.Proofs.PollSet.Watchlist
import EventLoop.Proofs.Server.Dispatch

/-! # What a wait leaves

    A wait ends in one of four ways: something is ready, the time has passed, a signal has
    arrived, or the system refuses. In the first three the results of all entries are
    written, in the last none is, and that is all that a wait writes to a set (`Waited`,
    `waitTimeout_refused`). What earlier waits reported is not read anywhere, so that it
    cannot come back.

    * The number answered counts the results that a round is going to scan, whatever ways
      the entries came by them.
    * `Server.poll_of_refused`: a round whose wait is refused is over, whatever its
      handlers are, with one message in the log. -/

namespace EventLoop

open Application

variable {L C D : Type}

namespace PollSet

variable {p p' : PollSet} {timeout : Int} {h h' : Host} {n : Nat} {e : Error}

/-- What a wait that is not refused leaves: `n` of the results are not empty. -/
structure Waited (p : PollSet) (timeout : Int) (h : Host) (n : Nat) (p' : PollSet) (h' : Host) :
    Prop where
  /-- Each result is the condition of the descriptor, of which only the flags asked for show and
      those that are always reported. -/
  entries : p'.toList = p.toList.map fun e =>
    { e with result := h.kernel.condition e.fd
      &&& (e.interest ||| .error ||| .hangup ||| .invalid) }
  count : n = (p'.toList.filter fun e => !e.result.isEmpty).length
  /-- The time passed, or a signal arrived. -/
  nothing : n = 0 → p'.toList = p.toList.map fun e => { e with result := .empty }
  interrupted : h.kernel.poll p.questions timeout = .error .interrupted → n = 0
  registered : p'.registered = p.registered
  capacity : p'.capacity = p.capacity
  spare : p'.spare = p.spare
  timeout : p'.timeout = p.timeout
  kernel : h'.kernel = h.kernel

/-- An interrupted wait counts nobody. -/
theorem waitTimeout_interrupted
    (hsignal : h.kernel.poll p.questions timeout = .error .interrupted) :
    (p.waitTimeout timeout h).1 = .ok 0 := by
  rw [waitTimeout, hsignal]
  rfl

/-- A wait that is not refused leaves the results of every entry. -/
theorem waitTimeout_waited (hwait : p.waitTimeout timeout h = (.ok n, p', h')) :
    p.Waited timeout h n p' h' := by
  obtain ⟨hlist, hcount⟩ := waitTimeout_answered hwait
  obtain ⟨hwritten, hkernel⟩ := waitTimeout_cases hwait
  -- a set that was not written to is one to which its own results were written
  have hframe : p'.registered = p.registered ∧ p'.capacity = p.capacity ∧ p'.spare = p.spare
      ∧ p'.timeout = p.timeout := by
    obtain rfl | ⟨results, rfl⟩ := hwritten
    · exact ⟨rfl, rfl, rfl, rfl⟩
    · exact ⟨rfl, capacity_record p results, spare_record p results, rfl⟩
  obtain ⟨hregistered, hcapacity, hspare, htimeout⟩ := hframe
  refine ⟨hlist, hcount, ?_, ?_, hregistered, hcapacity, hspare, htimeout, hkernel⟩
  · intro hzero
    rw [hcount, List.length_eq_zero_iff, List.filter_eq_nil_iff] at hzero
    rw [hlist, answered]
    refine List.map_congr_left fun e he => ?_
    have hresult := hzero { e with result := h.kernel.readiness e.fd e.interest }
      (hlist ▸ List.mem_map_of_mem he)
    rw [Bool.not_eq_true', Bool.not_eq_false] at hresult
    rw [show h.kernel.readiness e.fd e.interest = .empty
      from congrArg EventMask.mk (eq_of_beq hresult)]
  · intro hsignal
    have hanswer := waitTimeout_interrupted hsignal
    rw [hwait] at hanswer
    exact Except.ok.inj hanswer

/-- A wait that is refused leaves everything as it was. -/
theorem waitTimeout_refused (hwait : p.waitTimeout timeout h = (.error e, p', h')) :
    p' = p ∧ h' = h ∧ ∃ errno, h.kernel.poll p.questions timeout = .error errno
    ∧ errno ≠ .interrupted
      ∧ e = .os "poll" errno := by
  rw [waitTimeout] at hwait
  cases hpoll : h.kernel.poll p.questions timeout with
  | ok results =>
      rw [hpoll] at hwait
      cases hwait
  | error errno =>
      by_cases hsignal : errno = .interrupted
      · simp only [hpoll, if_pos hsignal] at hwait
        cases hwait
      · simp only [hpoll, if_neg hsignal] at hwait
        cases hwait
        exact ⟨rfl, rfl, errno, rfl, hsignal, rfl⟩

end PollSet

/-- A round whose wait is refused does nothing but say so in the log. -/
theorem Server.poll_of_refused {a : Application L C D} {e : Error}
    (hbound : a.server.isBound = true)
    (hwait : (a.server.polled.wait a.host).1 = .error e) (handlers : Handlers L C D) :
    Server.poll handlers a = .ok (.error e)
      { a with host := a.host.log .error s!"poll: {e.message}" } := by
  rcases hset : a.server.polled.wait a.host with ⟨r, polled, h'⟩
  rw [hset] at hwait
  obtain rfl : r = .error e := hwait
  obtain ⟨rfl, rfl, _⟩ := PollSet.waitTimeout_refused hset
  have hserver :
      a.server.wait a.host = (.error e, a.server, a.host.log .error s!"poll: {e.message}") := by
    rw [Server.wait, hset]
  rw [Server.poll_of_bound hbound, bind_of_ok (run_eq hserver)]
  rfl

/-- A wait that is not refused writes to each entry what is true of its descriptor now, and
    counts those for which there is something; whatever results the set had before are
    gone, and it has the entries and slots that it had. One that is refused, which a
    signal is not, leaves set and host as they were, and so does a round that begins with
    it, up to its message in the log. -/
theorem wait_reports (p : PollSet) (timeout : Int) (h : Host) :
    (∀ n p' h', p.waitTimeout timeout h = (.ok n, p', h') → p.Waited timeout h n p' h')
      ∧ (∀ e p' h', p.waitTimeout timeout h = (.error e, p', h') →
          p' = p ∧ h' = h ∧ ∃ errno, h.kernel.poll p.questions timeout = .error errno
          ∧ errno ≠ .interrupted
            ∧ e = .os "poll" errno)
      ∧ ∀ (a : Application L C D) (e : Error), a.server.isBound = true →
          (a.server.polled.wait a.host).1 = .error e → ∀ handlers : Handlers L C D,
            Server.poll handlers a
              = .ok (.error e) { a with host := a.host.log .error s!"poll: {e.message}" } :=
  ⟨fun _ _ _ hwait => PollSet.waitTimeout_waited hwait,
    fun _ _ _ hwait => PollSet.waitTimeout_refused hwait,
    fun _ _ hbound hwait handlers => Server.poll_of_refused hbound hwait handlers⟩

/-- A server with one connection and results in its set that no wait gave: a wait replaces
    them by its own, and where only one entry may be waited on it is refused, and so is
    the round. -/
theorem wait_reports_stale : ∃ (app refusing : Application Unit Unit Unit) (p' : PollSet)
    (h' : Host) (e : Error),
    Loopback.serving? 2 1 = some app
    ∧ refusing = { app with host := app.host.limited ⟨some 1, false, none⟩ }
      ∧ (app.server.polled.record #[.hangup, .hangup]).waitTimeout 8 app.host = (.ok 2, p', h')
      ∧ (app.server.polled.record #[.hangup, .hangup]).Waited 8 app.host 2 p' h'
      ∧ (∀ e ∈ p'.toList, e.result ≠ .hangup)
      ∧ e = .os "poll" .invalidArgument
      ∧ Server.poll Loopback.handlers refusing
          = .ok (.error e)
              { refusing with host := refusing.host.log .error s!"poll: {e.message}" } := by
  have hserving : (Loopback.serving? 2 1).map (fun app =>
      let answer := (app.server.polled.record #[.hangup, .hangup]).waitTimeout 8 app.host
      let refusing : Application Unit Unit Unit :=
        { app with host := app.host.limited ⟨some 1, false, none⟩ }
      (answer.1, answer.2.1.toList.all (·.result ≠ .hangup), refusing.server.isBound,
        (refusing.server.polled.wait refusing.host).1))
        = some (.ok 2, true, true, .error (.os "poll" .invalidArgument)) := by decide +kernel
  obtain ⟨app, happ, hparts⟩ := Option.map_eq_some_iff.mp hserving
  simp only [Prod.mk.injEq] at hparts
  obtain ⟨hanswer, hfresh, hbound, hrefused⟩ := hparts
  rcases hwait : (app.server.polled.record #[.hangup, .hangup]).waitTimeout 8 app.host
    with ⟨r, p', h'⟩
  rw [hwait] at hanswer hfresh
  obtain rfl : r = .ok 2 := hanswer
  obtain ⟨hwaited, _, hrounds⟩ :=
    wait_reports (L := Unit) (C := Unit) (D := Unit) (app.server.polled.record #[.hangup, .hangup])
      8 app.host
  refine ⟨app, _, p', h', _, happ, rfl, hwait, hwaited _ _ _ hwait, ?_, rfl,
    hrounds { app with host := app.host.limited ⟨some 1, false, none⟩ } _ hbound hrefused
      Loopback.handlers⟩
  intro e he
  exact of_decide_eq_true (List.all_eq_true.mp hfresh e he)

end EventLoop
