import EventLoop.Proofs.Server.Dispatch
import EventLoop.Proofs.Server.Ownership

/-! # The end of a server

    Cleaning up closes everything a server holds, and it can happen anywhere: between
    rounds, and in a handler while a round is under way that has noted who is ready. The
    round goes on over its note then, and the descriptors in it are no longer open or
    belong to somebody else.

    * `Server.Closed` is what cleaning up leaves: no listener, nothing watched, no
      connections. No moment changes it (`Moment.closed`), so that it holds ever after.
    * `Finished` is what a closed server comes to: every operation of it fails or does
      nothing. A note that is left over is skipped whatever the handlers are, as under
      none of its descriptors a connection is found (`dispatch_of_closed`).
    * `Midway` is a round of which some calls have been made. What it still has to do is
      the rest of the note (`Midway.poll_eq`, by induction on the turns made), which is
      nothing once the server is closed. -/

namespace EventLoop

open Application

variable {L C D : Type} {a b : Application L C D} {s : Server L C} {handlers : Handlers L C D}

/-- Nothing is left of a server. -/
structure Server.Closed (s : Server L C) : Prop where
  listener : s.listener = none
  registered : s.polled.registered = 0
  connections : s.connections = .empty

theorem PollSet.clear_of_empty {p : PollSet} (hempty : p.registered = 0) : p.clear = p := by
  obtain ⟨slots, registered, timeout⟩ := p
  obtain rfl : registered = 0 := hempty
  show (⟨Array.replicate 0 PollEntry.unused ++ slots.extract 0 slots.size, 0, timeout⟩ : PollSet)
    = ⟨slots, 0, timeout⟩
  rw [Array.replicate_zero, Array.empty_append, Array.extract_size]

namespace Server

theorem cleanup_closed (s : Server L C) (h : Host) : (s.cleanup h).1.Closed := by
  rw [cleanup_server]
  exact ⟨rfl, rfl, rfl⟩

namespace Closed

variable (h : s.Closed)

include h

theorem get? (fd : Descriptor) : s.connections.get? fd = none := by
  rw [h.connections]
  rfl

theorem isBound : s.isBound = false := by
  rw [Server.isBound, h.listener]
  rfl

theorem watches : s.polled.toList = [] := by
  rw [PollSet.toList, h.registered, List.take_zero]

theorem accept (handler : C) (host : Host) : s.accept handler host = (.error .notBound, s, host) :=
  accept_of_unbound h.listener handler host

theorem disconnect (fd : Descriptor) (host : Host) :
    s.disconnect fd host = (false, s, host.log .trace s!"disconnect: fd {fd} not connected") := by
  rw [Server.disconnect, h.get?]

theorem setInterest (fd : Descriptor) (interest : EventMask) :
    s.setInterest fd interest = .error (.unknownDescriptor fd) := by
  rw [Server.setInterest, DescriptorTable.contains, h.get?]
  rfl

theorem cleanup (host : Host) : s.cleanup host = (s, host) := by
  have hserver := s.cleanup_server host
  rw [PollSet.clear_of_empty h.registered, ← h.connections, ← h.listener] at hserver
  refine Prod.ext hserver ?_
  rw [Server.cleanup, h.listener, h.connections]
  rfl

theorem onConnection (fd : Descriptor) (f : Connection C → Connection C) :
    s.onConnection fd f = s := by
  have hempty : s.connections.modify fd f = s.connections := by
    rw [h.connections]
    rfl
  rw [Server.onConnection, hempty]

end Closed

end Server

/-! ## Ever after -/

/-- No step of a program brings anything back. -/
theorem Step.closed (h : a.server.Closed) (hstep : Step a b) : b.server.Closed := by
  cases hstep with
  | accept handler =>
      rw [after_run, h.accept]
      exact h
  | disconnect fd =>
      rw [after_run, h.disconnect]
      exact h
  | setInterest fd interest =>
      obtain ⟨e, _, hafter⟩ | ⟨s', hset, _⟩ := after_setInterest a fd interest
      · rw [hafter]
        exact h
      · cases (h.setInterest fd interest).symm.trans hset
  | cleanup => exact a.server.cleanup_closed a.host
  | setTimeout timeout => exact ⟨h.listener, h.registered, h.connections⟩
  | setHandler handler => exact ⟨h.listener, h.registered, h.connections⟩
  | keep userData => exact ⟨h.listener, h.registered, h.connections⟩
  | use hkept hopen =>
      show (a.server.onConnection _ _).Closed
      rw [h.onConnection]
      exact h
  | world hopen => exact h
  | data data => exact h

theorem Moment.closed (h : a.server.Closed) (hmoment : Moment a b) : b.server.Closed := by
  cases hmoment with
  | step hstep => exact hstep.closed h
  | note noted => exact ⟨h.listener, h.registered, h.connections⟩
  | wait =>
      rw [after_run]
      rcases hwait : a.server.wait a.host with ⟨r, s', h'⟩
      obtain ⟨polled, rfl, rfl | ⟨results, rfl⟩, _⟩ := Server.wait_cases hwait
      · exact h
      · exact ⟨h.listener, h.registered, h.connections⟩

/-- Whatever is done, a closed server stays closed. -/
theorem Reaches.closed (h : a.server.Closed) (hreach : Reaches a b) : b.server.Closed := by
  induction hreach with
  | refl => exact h
  | tail _ hlast ih => exact hlast.closed ih

/-- The system after a server was cleaned up. -/
def Application.cleaned (a : Application L C D) : Application L C D :=
  after (run fun s h => ((), s.cleanup h)) a

/-- Every operation of a server fails or does nothing. -/
structure Finished (a : Application L C D) : Prop where
  empty : a.server.listener = none ∧ a.server.polled.toList = [] ∧ a.server.connections.entries = []
  poll : ∀ handlers, Server.poll handlers a = .ok (.error .notBound) a
  accept : ∀ handler, a.server.accept handler a.host = (.error .notBound, a.server, a.host)
  disconnect : ∀ fd, a.server.disconnect fd a.host
    = (false, a.server, a.host.log .trace s!"disconnect: fd {fd} not connected")
  setInterest : ∀ fd interest, a.server.setInterest fd interest = .error (.unknownDescriptor fd)
  cleanup : a.server.cleanup a.host = (a.server, a.host)

/-- Where nothing is left, every operation fails or does nothing. -/
theorem Server.Closed.finished (h : a.server.Closed) : Finished a where
  empty := ⟨h.listener, h.watches, congrArg DescriptorTable.entries h.connections⟩
  poll := fun _ => Server.poll_of_unbound h.isBound
  accept := fun handler => h.accept handler a.host
  disconnect := fun fd => h.disconnect fd a.host
  setInterest := h.setInterest
  cleanup := h.cleanup a.host

/-! ## In the middle of a round -/

namespace Server

/-- No handler is called for what was noted before. -/
theorem dispatch_of_closed (h : a.server.Closed) (handlers : Handlers L C D) (noted : List Ready) :
    dispatch handlers noted a = .ok () a := by
  -- on the turns to come, all of which are skipped
  induction noted with
  | nil => rfl
  | cons r rest ih =>
      have hgone : turn handlers r a = .ok () a := by
        refine turn_of_gone ?_
        rintro ⟨c, hget, _⟩
        cases (h.get? r.fd).symm.trans hget
      rw [dispatch_cons, bind_of_ok hgone]
      exact ih

/-- A round that began in `start`, whose wait counted `n`, and that has served the listener and
    the first of those noted; the others are to come. -/
inductive Midway (handlers : Handlers L C D) (start : Application L C D) (n : Nat) :
    List Ready → List Ready → Application L C D → Prop
  | listened {s : Server L C} {h : Host} {noted : List Ready} {b : Application L C D}
      (hbound : start.server.isBound = true) (hwait : start.server.wait start.host = (.ok n, s, h))
      (hn : 0 < n)
      (hnoted : s.readyConnections = .ok noted)
      (hlistener : handlers.callListener
        { start with server := { s with ready := noted }, host := h } = .ok () b) :
      Midway handlers start n [] b.server.ready (b.noting [])
  | turned {served rest : List Ready} {r : Ready} {a b : Application L C D}
      (h : Midway handlers start n served (r :: rest) a) (hturn : turn handlers r a = .ok () b) :
      Midway handlers start n (served ++ [r]) rest b

/-- The round comes to what the rest of the note comes to. -/
theorem Midway.poll_eq {start : Application L C D} {n : Nat} {served rest : List Ready}
    (h : Midway handlers start n served rest b) :
    poll handlers start
      = ((dispatch handlers rest >>= fun _ => onServer fun s => { s with ready := served ++ rest })
        >>= fun _ =>
          pure (.ok n) : Run L C D (Except Error Nat)) b := by
  -- on the turns that have been taken
  induction h with
  | @listened s host noted b hbound hwait hn hnoted hlistener =>
      rw [poll_of_ready hbound hwait hn hnoted]
      exact bind_of_eq (serveNoted_of_listened (a := { start with server := s, host := host })
        hlistener rfl)
  | @turned served rest r a b _ hturn ih =>
      rw [ih, dispatch_cons, List.append_assoc]
      exact bind_of_eq (bind_of_eq (bind_of_ok hturn))

/-- Once the server is closed the round is over, with the answer of its wait. -/
theorem Midway.of_closed {start : Application L C D} {n : Nat} {served rest : List Ready}
    (h : Midway handlers start n served rest b) (hclosed : b.server.Closed) :
    poll handlers start = .ok (.ok n) (b.noting (served ++ rest)) := by
  have hrest :
      (dispatch handlers rest >>= fun _ => onServer fun s => { s with ready := served ++ rest } :
      Run L C D Unit) b = .ok () (b.noting (served ++ rest)) :=
        bind_of_ok (dispatch_of_closed hclosed handlers rest)
  exact h.poll_eq.trans (bind_of_ok hrest)

/-- A round of handlers that move comes by moments to where it is. -/
theorem Midway.reaches (hmove : handlers.Move) {start : Application L C D} {n : Nat}
    {served rest : List Ready} (h : Midway handlers start n served rest b) : Reaches start b := by
  induction h with
  | @listened s host noted b _ hwait _ _ hlistener =>
      have hnoted := (Relation.ReflTransGen.single (Moment.of_wait hwait)).tail (.note _ noted)
      exact (hnoted.trans (hmove.callListener hlistener)).tail (.note b [])
  | turned _ hturn ih => exact ih.trans ((turn_moves hmove _).of_ok hturn)

end Server

/-! ## Cleaning up -/

/-- Cleaning up closes the listener and the sockets of all connections, each once, and
    nothing else. -/
theorem Paired.cleaned (h : Paired a) :
    a.host.openDescriptors.Perm (a.server.held ++ a.cleaned.host.openDescriptors) := by
  have hheld : ∀ fd ∈ a.server.held, a.server.held.count fd ≤ a.host.openDescriptors.count fd :=
    List.subperm_ext_iff.mp (h.held_nodup.subperm h.held_open)
  have hopen : a.cleaned.host.openDescriptors = a.host.openDescriptors.diff a.server.held :=
    a.server.openDescriptors_cleanup a.host
  rw [hopen]
  exact (List.subperm_append_diff_self_of_count_le hheld).symm

/-- Wherever in its life a server is cleaned up, everything that it held is closed and the
    server is finished, and so it is after everything that can happen later. If that is
    in the middle of a round, in the handler of the listener or of a connection, the round
    calls nobody any more and ends with the answer of its wait. -/
theorem cleanup_final (h : Reachable a) :
    a.host.openDescriptors.Perm (a.server.held ++ a.cleaned.host.openDescriptors)
      ∧ (a.host.openDescriptors.Nodup → ∀ fd ∈ a.server.held, fd ∉ a.cleaned.host.openDescriptors)
      ∧ ∀ b, Reaches a.cleaned b →
          Finished b
            ∧ ∀ (handlers : Handlers L C D) (start : Application L C D) (n : Nat)
            (served rest : List Ready),
                Server.Midway handlers start n served rest b →
                  Server.poll handlers start = .ok (.ok n) (b.noting (served ++ rest))
                    ∧ ∀ others : Handlers L C D, Server.dispatch others rest b = .ok () b := by
  have hperm := h.paired.cleaned
  refine ⟨hperm, ?_, ?_⟩
  · intro hnodup fd hheld hopen
    exact (List.nodup_append.mp (hperm.nodup_iff.mp hnodup)).2.2 fd hheld fd hopen rfl
  · intro b hreach
    have hclosed : b.server.Closed := hreach.closed (a.server.cleanup_closed a.host)
    exact ⟨hclosed.finished, fun _ _ _ _ rest hmidway =>
      ⟨hmidway.of_closed hclosed, fun others => Server.dispatch_of_closed hclosed others rest⟩⟩

/-- What a handler may still do after it cleaned up. -/
def Loopback.afterwards (fd : Descriptor) : Run Unit Unit Unit Unit := do
  let _ ← run (·.accept ())
  let _ ← run (·.disconnect fd)

/-- Handlers under which a connection ends the server by its first event. -/
def Loopback.ending : Handlers Unit Unit Unit where
  onListen := fun _ _ => pure ()
  onConnection := fun _ fd _ => do
    run fun s h => ((), s.cleanup h)
    Loopback.afterwards fd

theorem Loopback.afterwards_operates (fd : Descriptor) : Operates (Loopback.afterwards fd) :=
  operates_bind (operates_of_step fun a => .accept a ()) fun _ =>
    operates_bind (operates_of_step fun a => .disconnect a fd) fun _ => operates_pure ()

theorem Loopback.ending_operate : Loopback.ending.Operate where
  onListen := fun _ _ => operates_pure ()
  onConnection := fun _ fd _ => operates_bind (operates_of_step fun a => .cleanup a) fun _ =>
    afterwards_operates fd

/-- Two connections are ready. The first ends the server in its turn and goes on using it,
    to no effect; the second has no turn, and both were counted. -/
theorem cleanup_final_ending : ∃ (app a b : Application Unit Unit Unit),
    Loopback.serving? 2 2 = some app ∧ Reachable a ∧ a.server.held = [3, 4, 5]
    ∧ a.host.openDescriptors.Nodup
      ∧ Reaches a.cleaned b ∧ Server.Midway Loopback.ending app 2 [⟨4, 1, .writable⟩]
        [⟨5, 2, .writable⟩] b
      ∧ (∀ fd ∈ a.server.held, fd ∉ a.cleaned.host.openDescriptors) ∧ Finished b
      ∧ Server.poll Loopback.ending app = .ok (.ok 2)
        (b.noting [⟨4, 1, .writable⟩, ⟨5, 2, .writable⟩]) := by
  have hwaited : (Loopback.serving? 2 2).map (fun app =>
      (app.server.isBound, (app.server.wait app.host).1,
        (app.server.wait app.host).2.1.readyConnections))
      = some (true, .ok 2, .ok [⟨4, 1, .writable⟩, ⟨5, 2, .writable⟩]) := by decide +kernel
  have hfound : (Loopback.serving? 2 2).map (fun app =>
      ((app.server.wait app.host).2.1.polled.result 0,
        ((app.server.wait app.host).2.1.connections.get? 4).map (·.id),
        (app.server.wait app.host).2.1.held, (app.server.wait app.host).2.2.openDescriptors))
      = some (.empty, some 1, [3, 4, 5], [5, 4, 3]) := by decide +kernel
  obtain ⟨app, happ, hparts⟩ := Option.map_eq_some_iff.mp hwaited
  rw [happ] at hfound
  rcases hwait : app.server.wait app.host with ⟨answer, s, h⟩
  rw [hwait] at hparts
  simp only [hwait, Option.map_some, Option.some.injEq, Prod.mk.injEq] at hparts hfound
  obtain ⟨hbound, rfl, hnoted⟩ := hparts
  obtain ⟨hquiet, hid, hheld, hopen⟩ := hfound
  obtain ⟨c, hget, hid⟩ := Option.map_eq_some_iff.mp hid
  -- nobody waits to be accepted, so that the listener's handler is not called
  have hlistener : Loopback.ending.callListener
        { app with server := { s with ready := [⟨4, 1, .writable⟩, ⟨5, 2, .writable⟩] }, host := h }
      = .ok () { app with
        server := { s with ready := [⟨4, 1, .writable⟩, ⟨5, 2, .writable⟩] }, host := h } := by
    rw [Handlers.callListener]
    simp only [hquiet]
    rfl
  have hbegun := Server.Midway.listened hbound hwait (by decide) hnoted hlistener
  generalize hx :
    ({ app with server := { s with ready := [⟨4, 1, .writable⟩, ⟨5, 2, .writable⟩] }, host := h } :
    Application Unit Unit Unit).noting [] = x at hbegun
  have hgetx : x.server.connections.get? 4 = some c := by rw [← hx]; exact hget
  have hheldx : x.server.held = [3, 4, 5] := by rw [← hx]; exact hheld
  have hnodup : x.host.openDescriptors.Nodup := by
    rw [← hx]; show h.openDescriptors.Nodup; rw [hopen]; decide
  obtain ⟨a, ha⟩ : ∃ a,
    a = x.traced s!"dispatch fd {(4 : Descriptor)} {EventMask.writable.inspect}" := ⟨_, rfl⟩
  have hmove := Loopback.ending_operate.move
  have hreach : Reachable a := by
    rw [ha]
    exact ((Loopback.serving_reachable happ).of_reaches (hbegun.reaches hmove)).of_moment
      (.step (Step.traced x _))
  have hturn : Server.turn Loopback.ending ⟨4, 1, .writable⟩ x
      = .ok () (after (Loopback.afterwards 4) a.cleaned) := by
    rw [Server.turn_of_live hgetx hid, ha]
    rfl
  have hafter : Reaches a.cleaned (after (Loopback.afterwards 4) a.cleaned) :=
    (Loopback.afterwards_operates 4).moves a.cleaned
  obtain ⟨_, hclosed, hlater⟩ := cleanup_final hreach
  obtain ⟨hfinished, hround⟩ := hlater _ hafter
  refine ⟨app, a, _, happ, hreach, ?_, ?_, hafter, hbegun.turned hturn, hclosed ?_, hfinished,
    (hround _ _ _ _ _ (hbegun.turned hturn)).1⟩
  · rw [ha]
    exact hheldx
  · rw [ha]
    exact hnodup
  · rw [ha]
    exact hnodup

end EventLoop
