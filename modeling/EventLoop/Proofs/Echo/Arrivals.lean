import EventLoop.Proofs.Echo.Quiescence
import EventLoop.Proofs.Echo.Screening
import EventLoop.Proofs.Echo.Tallies

/-! # Clients are served as they arrive

    The queue of the listener is changed in two places only: clients that connect are put
    behind all others, and the call of the listener's handler takes clients from the front.
    So whoever is left in the queue by one call comes first in the next one.

    * `CallsListener`: the call of the listener's handler in a round. The rest of the round
      leaves the queue as the call left it (`CallsListener.waiting_rounded`).
    * `Bypasses`: whatever else happens to a server that stays bound. It only adds to the
      end of the queue (`Bypasses.waiting_prefix`, `Watches.waiting_bypassed`).
    * `Screened` is what a call comes to, and `listener_screens` says so of every call. -/

namespace EventLoop.Echo

open Application

variable {size n : Nat} {noted : List Ready} {served : List Nat} {a b c d x : Service}
  {l : Listener} {s : Server Unit Unit} {h' : Host} {connection : Connection Unit} {r : Ready}
  {events : EventMask} {turns : List (EventLoop.Turn Unit Unit Stats)} {handled : List Nat}
  {e : Error}

/-! ## The round of the call -/

/-- A round that begins in a system calls the listener's handler: with which events, and in
    which system. -/
inductive CallsListener (c : Service) : EventMask → Service → Prop
  | intro {n : Nat} {s : Server Unit Unit} {h : Host} {noted : List Ready}
      (hbound : c.server.isBound = true)
      (hwait : c.server.wait c.host = (.ok n, s, h)) (hn : 0 < n)
      (hnoted : s.readyConnections = .ok noted)
      (hready : (s.polled.result 0).isEmpty = false) :
      CallsListener c (s.polled.result 0)
        ((Application.noting { c with server := s, host := h } noted).traced
          s!"dispatch listener {(s.polled.result 0).inspect}")

/-- A running echo server where the handler of its listener can be called: between two
    rounds, or in a round that calls it. -/
inductive Attentive (size : Nat) : Service → Prop
  | between {a : Service} (h : Running size a) : Attentive size a
  | called {c a : Service} {events : EventMask} (h : Running size c)
      (hcall : CallsListener c events a) :
      Attentive size a

/-- The call finds the queue as it was before the round. -/
theorem CallsListener.waiting_eq (h : CallsListener c events a) (l : Listener) :
    waiting l a = waiting l c := by
  cases h with
  | intro _ hwait _ _ _ =>
      obtain ⟨_, _, _, hkernel⟩ := Server.wait_cases hwait
      exact congrArg (·.queue l.fd) hkernel

theorem CallsListener.listener_eq (h : CallsListener c events a) :
    a.server.listener = c.server.listener := by
  cases h with
  | intro _ hwait _ _ _ =>
      obtain ⟨_, rfl, _⟩ := Server.wait_cases hwait
      rfl

/-- The handler is called for a listener that was found readable. -/
theorem CallsListener.readable (h : CallsListener c events a) (hc : Watches size noted served c) :
    events.isReadable = true := by
  cases h with
  | intro _ hwait _ _ hready =>
      obtain ⟨_, _, _, hreadable⟩ := hc.listener_ready hwait hready
      exact hreadable

/-- The invariant holds where the handler is called. -/
theorem CallsListener.watches (h : CallsListener c events a) (hc : Watches size [] served c) :
    ∃ noted, Watches size noted served a := by
  cases h with
  | @intro _ s h noted _ hwait _ hready _ =>
      obtain ⟨noted', hready', hnoted⟩ :=
        (hc.reachable.of_moment (.of_wait hwait)).paired.readyConnections
      obtain rfl := Except.ok.inj (hready.symm.trans hready')
      exact ⟨noted, ((hc.note hwait hnoted).noting noted).log .trace _⟩

theorem Attentive.watches (h : Attentive size a) : ∃ noted, Watches size noted [] a := by
  cases h with
  | between h => exact ⟨[], h.watches⟩
  | called h hcall => exact hcall.watches h.watches

/-- The call for a ready connection does not concern the queue. -/
theorem Calls.waiting_eq (h : Calls size a r connection b) (ha : Watches size noted served a)
    (hget : a.server.connections.get? r.fd = some connection) (hl : a.server.listener = some l) :
    waiting l b = waiting l a := by
  have hne : l.fd ≠ r.fd :=
    (ha.reachable.paired.key_ne_listener hl (Server.mem_roster_of_get? hget)).symm
  have hlistens := ha.listens l hl
  have hafter := h.listens hlistens hne
  have hlocal := h.localTo ha.echoes.balanced.tidy
  rw [waiting, waiting, hafter.queue_eq, hlistens.queue_eq]
  exact hlocal.references l.fd hne

/-- In what remains of a round after the call for the listener the queue stays as it is. -/
theorem Round.waiting_eq {outcome : Outcome Unit Unit Stats (Except Error Nat)}
    (hround : Round handlers n noted a turns outcome)
    (hcall : handlers.callListener (a.noting noted) = .ok () b)
    (hb : Watches size noted served b) (hl : b.server.listener = some l) :
    ∃ d, outcome = .ok (.ok n) d ∧ d.server.listener = some l ∧ waiting l d = waiting l b := by
  obtain ⟨_, d, hok, _, hlistener, hwaiting⟩ := hround.steps
    (P := fun rest x => (rest ⊆ noted ∧ Watches size noted served x) ∧ x.server.listener = some l
      ∧ waiting l x = waiting l b)
    ⟨b, hcall, ⟨List.Subset.refl _, hb.noting []⟩, hl, rfl⟩
    (fun _ _ _ hx _ => ⟨⟨List.subset_of_cons_subset hx.1.1, hx.1.2⟩, hx.2⟩)
    (by
      rintro r rest x connection ⟨⟨hrest, hx⟩, hlistener, hwaiting⟩ hget hid
      obtain ⟨y, hok, hcalls, hy⟩ := hx.call (hrest List.mem_cons_self) hget hid
      exact ⟨y, hok, ⟨List.subset_of_cons_subset hrest,
        hy.of_subset (List.Subset.refl _) (List.subset_cons_self _ _)⟩,
        hcalls.listener.trans hlistener, (hcalls.waiting_eq hx hget hlistener).trans hwaiting⟩)
  exact ⟨d.noting noted, hok, hlistener, hwaiting⟩

/-- So a round leaves the queue as the call of the listener's handler left it. -/
theorem CallsListener.waiting_rounded (h : CallsListener c events a) (hc : Watches size [] served c)
    (hcall : Echo.onListen events a = .ok () b) (hl : b.server.listener = some l) :
    (rounded c).server.listener = some l ∧ waiting l (rounded c) = waiting l b := by
  cases h with
  | @intro n s h noted hbound hwait hn hready hsome =>
      have hwoken := hc.reachable.of_moment (.of_wait hwait)
      obtain ⟨noted', hready', hnoted⟩ := hwoken.paired.readyConnections
      obtain rfl := Except.ok.inj (hready.symm.trans hready')
      obtain ⟨turns, hround, _⟩ :=
        serveNoted_rounds handlers_operate hwoken.paired hwoken.identified
        (Server.notes_seat hnoted) n
      rw [← Server.poll_of_ready hbound hwait hn hready] at hround
      have hlistened :
          handlers.callListener (Application.noting { c with server := s, host := h } noted)
          = .ok () b := by
        rw [Handlers.callListener, ← hcall]
        exact if_neg (Bool.eq_false_iff.mp hsome)
      obtain ⟨b', hok, hb⟩ := ((hc.note hwait hnoted).noting noted).listener
      cases hlistened.symm.trans hok
      obtain ⟨d, hpolled, hlistener, hwaiting⟩ := Round.waiting_eq hround hlistened hb hl
      rw [rounded, after_eq_of_ok hpolled]
      exact ⟨hlistener, hwaiting⟩

/-! ## Between the calls -/

/-- Something happens to a server that stays bound, and it is no round that calls the
    listener's handler. -/
structure Bypasses (c d : Service) : Prop where
  happens : Happens c d
  bound : d.server.isBound = true
  uncalled : d = rounded c → ∀ events a, ¬ CallsListener c events a

/-- A client that connects is put behind all others in the queue of its listener. -/
theorem Watches.waiting_connect (h : Watches size [] served c) (hl : c.server.listener = some l)
    (address : Address) :
    ∃ more, waiting l { c with host := { c.host with kernel := (c.host.kernel.connect address).2 } }
      = waiting l c ++ more := by
  have hlistens := h.listens l hl
  show ∃ more, (c.host.kernel.connect address).2.queue l.fd = c.host.kernel.queue l.fd ++ more
  obtain hsame | ⟨listener, hconnects⟩ := c.host.kernel.connect_cases address
  · rw [hsame]
    exact ⟨[], (List.append_nil _).symm⟩
  · rw [(hlistens.connect hconnects).queue_eq, hlistens.queue_eq]
    by_cases hsame : l.fd = listener
    · rw [hsame]
      exact ⟨_, hconnects.references_listener⟩
    · exact ⟨[], (hconnects.references_of_ne hsame).trans (List.append_nil _).symm⟩

/-- A round that does not call the handler leaves the queue alone. -/
theorem Watches.waiting_uncalled (h : Watches size [] served c) (hbound : c.server.isBound = true)
    (hl : c.server.listener = some l) (hnever : ∀ events a, ¬ CallsListener c events a) :
    (rounded c).server.listener = some l ∧ waiting l (rounded c) = waiting l c := by
  rcases hwait : c.server.wait c.host with ⟨answer, s, h'⟩
  obtain ⟨polled, rfl, _, hkernel⟩ := Server.wait_cases hwait
  have hsame : ∀ noted,
      waiting l (Application.noting
        { c with server := { c.server with polled := polled }, host := h' } noted)
      = waiting l c := fun _ => congrArg (·.queue l.fd) hkernel
  obtain hwaited | ⟨n, noted, turns, rfl, hn, hnoted, hround⟩ :=
    h.reachable.poll_cases hbound handlers_operate hwait
  · rw [rounded, after_eq_of_ok hwaited]
    exact ⟨hl, hsame c.server.ready⟩
  · have hidle : (polled.result 0).isEmpty = true := by
      by_contra hsome
      obtain ⟨noted', hready, _⟩ := (h.reachable.of_moment (.of_wait hwait)).paired.readyConnections
      exact hnever _ _ (.intro hbound hwait hn hready (Bool.eq_false_iff.mpr hsome))
    have hcall : handlers.callListener
        (Application.noting { c with server := { c.server with polled := polled }, host := h' }
          noted) = .ok () _ := if_pos hidle
    obtain ⟨d, hpolled, hlistener, hwaiting⟩ :=
      Round.waiting_eq hround hcall ((h.note hwait hnoted).noting noted) hl
    rw [rounded, after_eq_of_ok hpolled]
    exact ⟨hlistener, hwaiting.trans (hsame noted)⟩

/-- Clients that come later wait behind those who wait already. -/
theorem Bypasses.waiting_prefix (h : Bypasses c d) (hc : Watches size [] served c)
    (hl : c.server.listener = some l) :
    d.server.listener = some l ∧ ∃ more, waiting l d = waiting l c ++ more := by
  obtain ⟨hnext, hbound, huncalled⟩ := h
  have hbefore := hnext.bound_of_bound hbound
  cases hnext with
  | connect address => exact ⟨hl, hc.waiting_connect hl address⟩
  | client _ => exact ⟨hl, [], (List.append_nil _).symm⟩
  | host hfiles _ =>
      refine ⟨hl, [], (Kernel.queue_congr ?_).trans (List.append_nil _).symm⟩
      rw [Kernel.file?, hfiles, Kernel.file?]
  | timeout _ => exact ⟨hl, [], (List.append_nil _).symm⟩
  | round =>
      obtain ⟨hlistener, hwaiting⟩ := hc.waiting_uncalled hbefore hl (huncalled rfl)
      exact ⟨hlistener, [], hwaiting.trans (List.append_nil _).symm⟩
  | cleanup => cases (isBound_cleanup c.server c.host).symm.trans hbound

/-- And so does all that happens up to the next call. -/
theorem Watches.waiting_bypassed (hc : Watches size [] served c) (hl : c.server.listener = some l)
    (h : Relation.ReflTransGen Bypasses c d) :
    Watches size [] served d ∧ d.server.listener = some l
    ∧ ∃ more, waiting l d = waiting l c ++ more := by
  -- on what happens, each of which can only make the queue longer
  induction h with
  | refl => exact ⟨hc, hl, [], (List.append_nil _).symm⟩
  | tail _ hlast ih =>
      obtain ⟨hwatches, hlistener, more, hwaiting⟩ := ih
      obtain ⟨hlistener', more', hwaiting'⟩ := hlast.waiting_prefix hwatches hlistener
      refine ⟨hwatches.happens hlast.happens, hlistener', more ++ more', ?_⟩
      rw [hwaiting', hwaiting, List.append_assoc]

/-- What bypasses the listener is a part of a run. -/
theorem Running.bypassed (h : Running size c) (hlater : Relation.ReflTransGen Bypasses c d) :
    Running size d := by
  induction hlater with
  | refl => exact h
  | tail _ hlast ih => exact ih.next hlast.happens

/-! ## A call -/

/-- What a call of the listener's handler in `a` comes to when the listener is readable, with
    the attempts that it makes, and the system that it leaves. -/
structure Screened (size : Nat) (l : Listener) (a : Service) (attempts : List Service)
    (b : Service) : Prop where
  loop : Attempts ((waiting l a).length + 1) a attempts b
  /-- The loop comes to its end by itself, however many attempts it is allowed. -/
  ends : ∀ limit, (waiting l a).length < limit → Echo.acceptWithin limit a = .ok () b
  /-- With descriptors and memory the queue is empty afterwards: as many clients as there were
      vacancies were let in, those who came first, and the others were turned away. -/
  drained : (∀ x ∈ attempts, Provided x) → waiting l b = []
    ∧ Screens l ((waiting l a).take (vacancies a)) ((waiting l a).drop (vacancies a)) a b
  /-- An attempt that fails in another way is the last one and counts as one error. Those
      before it dealt with the clients that came first, and the others are in the queue, up
      to one for which there was no memory. -/
  failed : ∀ x ∈ attempts, ∀ e, (x.server.accept () x.host).1 = .error e → e.isWouldBlock = false →
    (∀ slots, e ≠ .capacityExceeded slots) →
      attempts.getLast? = some x ∧ b.server = x.server
      ∧ b.data = { x.data with errors := a.data.errors + 1 }
        ∧ (∃ handled, waiting l a = handled ++ waiting l x
          ∧ Screens l (handled.take (vacancies a)) (handled.drop (vacancies a)) a x)
        ∧ (waiting l b = waiting l x ∨ e = .outOfMemory size ∧ ∃ client,
          waiting l x = client :: waiting l b)
  /-- When a round calls the handler for the next time, those who were left in the queue come
      first. -/
  resumed : ∀ c events, Running size c → CallsListener c events a →
    ∀ d, Relation.ReflTransGen Bypasses (rounded c) d → ∀ events' x, CallsListener d events' x →
      Attentive size x ∧ events'.isReadable = true ∧ x.server.listener = some l
        ∧ ∃ more, waiting l x = waiting l b ++ more

/-- The handler of a readable listener makes one attempt more than clients wait, at most. -/
theorem onListen_of_readable (hreadable : events.isReadable = true)
    (hl : a.server.listener = some l) :
    Echo.onListen events a = Echo.acceptWithin ((waiting l a).length + 1) a := by
  have hpending : a.server.pending a.host = (waiting l a).length := by
    rw [Server.pending, hl]
    rfl
  rw [Echo.onListen, ← hpending]
  simp only [hreadable, if_true]
  rfl

/-- Where everything is provided for the last attempt everybody is dealt with. -/
theorem Handled.drained (h : Handled size noted served l a handled x) (hprovided : Provided x)
    (hstops : Stops x e b) :
    waiting l b = [] ∧ Screens l ((waiting l a).take (vacancies a))
      ((waiting l a).drop (vacancies a)) a b := by
  obtain ⟨hnobody, hblocks⟩ := hprovided.stops h.watches h.listener hstops
  obtain ⟨hserver, hkernel, hdata⟩ := hstops.of_wouldBlock h.watches hblocks
  have hqueue : waiting l a = handled := by rw [h.queue, hnobody, List.append_nil]
  refine ⟨(congrArg (·.queue l.fd) hkernel).trans hnobody, ?_⟩
  rw [hqueue]
  exact h.screens.quiet hserver hkernel hdata

/-- An attempt that ends the loop with a failure counts one error more than there were before
    the call. -/
theorem Handled.data_of_stops (h : Handled size noted served l a handled x) (hstops : Stops x e b)
    (hfails : e.isWouldBlock = false) : b.data = { x.data with errors := a.data.errors + 1 } := by
  obtain ⟨_, _, _, _, rfl⟩ := hstops
  have herrors : x.data.errors = a.data.errors := by rw [h.screens.data]
  rw [← herrors]
  exact if_neg (Bool.eq_false_iff.mp hfails)

/-- The next call finds those who were left in the queue, and behind them whoever came since. -/
theorem CallsListener.resumed (h : CallsListener c events a) (hc : Running size c)
    (hcall : Echo.onListen events a = .ok () b) (hl : b.server.listener = some l)
    (hlater : Relation.ReflTransGen Bypasses (rounded c) d) {events' : EventMask}
    (hagain : CallsListener d events' x) :
    Attentive size x ∧ events'.isReadable = true ∧ x.server.listener = some l
      ∧ ∃ more, waiting l x = waiting l b ++ more := by
  obtain ⟨hround, hrounded⟩ := h.waiting_rounded hc.watches hcall hl
  have hrunning : Running size (rounded c) := hc.next (.round c)
  obtain ⟨hd, hlistener, more, hwaiting⟩ := hrunning.watches.waiting_bypassed hround hlater
  refine ⟨.called (hrunning.bypassed hlater) hagain, hagain.readable hd,
    hagain.listener_eq.trans hlistener, more, ?_⟩
  rw [hagain.waiting_eq, hwaiting, hrounded]

/-- Whenever the handler of an echo server's listener can be called, and is told that the
    listener is readable, it screens the queue: it returns, whatever the limits of the host;
    with descriptors and memory it leaves nobody in the queue, lets clients in in their order
    up to the number allowed and turns away the others; any other failure ends the call with
    one error; and whoever is left is dealt with first in the next call. -/
theorem listener_screens (h : Attentive size a) (hl : a.server.listener = some l)
    (hreadable : events.isReadable = true) :
    ∃ attempts b, Echo.onListen events a = .ok () b ∧ Screened size l a attempts b := by
  obtain ⟨noted, ha⟩ := h.watches
  obtain ⟨attempts, b, hok, hattempts⟩ := acceptWithin_attempts ((waiting l a).length + 1) a
  obtain ⟨handled, x, e, hlast, hhandled, hstops⟩ := hattempts.handled ha hl (Nat.lt_succ_self _)
  have hlistener : b.server.listener = some l := by
    obtain ⟨_, _, _, _, rfl⟩ := hstops
    exact hhandled.listener
  refine ⟨attempts, b, (onListen_of_readable hreadable hl).trans hok, hattempts, ?_, ?_, ?_, ?_⟩
  · intro limit hlimit
    rw [ha.acceptWithin_stable hl hlimit (Nat.lt_succ_self _)]
    exact hok
  · exact fun hprovided => hhandled.drained (hprovided x (List.mem_of_getLast? hlast)) hstops
  · intro y hy e' herror hfails hother
    obtain ⟨_, host, haccept, _⟩ | ⟨_, _, _, haccept, _⟩ := y.server.accept_cases () y.host
    · rw [haccept] at herror
      obtain rfl := Except.error.inj herror
      -- the attempt that failed is the one that ended the loop
      have hend := hattempts.last_of_error hy haccept hother
      obtain rfl := Option.some.inj (hlast.symm.trans hend)
      obtain ⟨_, _, hsame, hleft⟩ := hstops.ends
      cases haccept.symm.trans hsame
      have hwaiting := hstops.waiting_eq hhandled.watches hhandled.listener
      rw [hhandled.watches.echoes.bufferSize] at hwaiting
      exact ⟨hend, congrArg (·.server) hleft, hhandled.data_of_stops hstops hfails,
        ⟨handled, hhandled.queue, hhandled.screens⟩, hwaiting⟩
    · rw [haccept] at herror
      cases herror
  · intro c events₀ hc hcall d hlater events' y hagain
    have hreturns := (onListen_of_readable (hcall.readable hc.watches) hl).trans hok
    exact hcall.resumed hc hreturns hlistener hlater hagain

/-- Two clients come to a server with one client, which may have two: the first of them is let
    in and the second one turned away. Where no descriptor is left both stay in the queue,
    and there is one error. -/
theorem listener_screens_stalled : ∃ (app starved b b' : Service) (l : Listener),
    Loopback.stalled?.map (fun a => a.visit.visit) = some app
      ∧ starved = { app with host := app.host.limited ⟨some 5, false, none⟩ }
      ∧ app.server.listener = some l
      ∧ waiting l app = [1, 2] ∧ vacancies app = 1
      ∧ Echo.onListen .readable app = .ok () b ∧ waiting l b = [] ∧ Screens l [1] [2] app b
      ∧ Echo.onListen .readable starved = .ok () b' ∧ waiting l b' = [1, 2]
      ∧ b'.data = { starved.data with errors := starved.data.errors + 1 } := by
  have hparts : (Loopback.stalled?.map (fun a => a.visit.visit)).map (fun a =>
      (a.server.listener.map Listener.fd, a.host.kernel.queue 3, vacancies a,
        (a.server.accept () (a.host.limited ⟨some 5, false, none⟩)).1))
        = some (some 3, [1, 2], 1, .error (.os "accept" .processTableFull)) := by decide +kernel
  have hlimits : (Loopback.stalled?.map (fun a => a.visit.visit)).map
      (fun a => (a.host.kernel.descriptorLimit,
      decide (a.host.memory.request a.server.config.bufferSize = (true, a.host.memory))))
        = some (none, true) := by
    decide +kernel
  obtain ⟨app, happ, hparts⟩ := Option.map_eq_some_iff.mp hparts
  rw [happ, Option.map_some, Option.some.injEq] at hlimits
  simp only [Prod.mk.injEq, decide_eq_true_eq] at hparts hlimits
  obtain ⟨hfd, hqueue, hvacancies, hrefused⟩ := hparts
  obtain ⟨hdescriptors, hmemory⟩ := hlimits
  obtain ⟨l, hl, hfd⟩ := Option.map_eq_some_iff.mp hfd
  have hwaiting : waiting l app = [1, 2] := by rw [waiting, hfd, hqueue]
  have hrun : Running 4 app := by
    obtain ⟨stalled, hstalled, rfl⟩ := Option.map_eq_some_iff.mp happ
    exact ((Loopback.stalled_running hstalled).next (.connect _ _)).next (.connect _ _)
  have hstarved : Running 4 { app with host := app.host.limited ⟨some 5, false, none⟩ } :=
    hrun.next (.host app rfl rfl)
  have hreadable : EventMask.readable.isReadable = true := rfl
  obtain ⟨attempts, b, hok, hscreened⟩ := listener_screens (.between hrun) hl hreadable
  obtain ⟨attempts', b', hok', hscreened'⟩ := listener_screens (.between hstarved) hl hreadable
  obtain ⟨hnobody, hscreens⟩ :=
    hscreened.drained (hscreened.loop.provided hrun.watches hl ⟨hdescriptors, hmemory⟩)
  rw [hwaiting, hvacancies] at hscreens
  have hfirst : ({ app with host := app.host.limited ⟨some 5, false, none⟩ } : Service)
    ∈ attempts' := by
    cases hscreened'.loop <;> exact List.mem_cons_self
  obtain ⟨_, _, hdata, _, hleft | ⟨hmemory, _⟩⟩ :=
    hscreened'.failed _ hfirst _ hrefused rfl (by rintro _ ⟨⟩)
  · exact ⟨app, _, b, b', l, happ, rfl, hl, hwaiting, hvacancies, hok, hnobody, hscreens, hok',
      hleft.trans hwaiting, hdata⟩
  · cases hmemory

end EventLoop.Echo
