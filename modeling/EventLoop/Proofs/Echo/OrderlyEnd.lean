import EventLoop.Proofs.Echo.Conservation

/-! # Orderly ends

    A connection that is closed without an error, and whose client did not leave, was
    not closed too early: the client had said that it would send no more, all it sent was
    taken, and all that was taken was handed back (`running_orderly`).

    The end of the stream is settled by the call that closes it. What comes after, in the
    round (`Sweep.rest`) and after it, are calls and rounds that keep settled streams as
    they are, so that the client can collect everything and finds the end of the stream
    behind it whenever it looks. -/

namespace EventLoop.Echo

open Application

variable {size n i : Nat} {data : Bytes} {a b d : Service} {c : Connection Unit} {k : Kernel}
  {turns : List (EventLoop.Turn Unit Unit Stats)} {t : EventLoop.Turn Unit Unit Stats}

/-- The client of a stream sent these bytes, and gets all of them back and then the end of
    the stream. -/
def Completes (k : Kernel) (i : Nat) (data : Bytes) : Prop :=
  ∃ s, k.streams[i]? = some s ∧ s.arrived = data ∧ s.received ++ s.peerReceive.1 = data
    ∧ s.peerReceive.2.1 = .eof

/-- A stream that is settled has been handed back whole, and the client has it or will. -/
theorem completes_of_settled (h : k.Settled i data) : Completes k i data := by
  obtain ⟨s, hstream, hreturned⟩ := h.stream
  refine ⟨s, hstream, hreturned.arrived, ?_, ?_⟩
  · rw [s.received_peerReceive]
    exact hreturned.handed
  · rw [Stream.peerReceive, hreturned.ownEnd]

/-- A call in a round of a running server that closes a connection without an error. If
    the client is still there, nothing was closed too early: the client had ended its
    sending side, all it sent was taken and handed back, and however the run goes on the
    client gets exactly that and then the end of the stream. -/
theorem running_orderly (h : Running size a) (hturns : RoundTurns a turns) (ht : t ∈ turns)
    (hget : t.before.server.connections.get? t.ready.fd = some c) (hid : c.id = t.ready.id)
    (hcall : handlers.call c t.ready t.before = .ok () b)
    (hclosed : b.server.connections.get? t.ready.fd = none)
    (herrors : b.data.errors = t.before.data.errors) :
    ∃ i s, t.before.host.kernel.index? t.ready.fd = some i ∧ b.host.kernel.streams[i]? = some s
      ∧ (s.peerEnd ≠ .gone →
          s.peerEnd = .finished ∧ s.taken = s.arrived.length ∧ s.handed = s.arrived
          ∧ s.ownEnd = .closed
            ∧ ∀ d, Later (after (Server.poll handlers) a) d →
              Completes d.host.kernel i s.arrived) := by
  obtain ⟨_, _, _, noted, _, hwait, hn, hnoted, hround⟩ := hturns
  obtain ⟨hbefore, _, hpolled, _⟩ := (h.echoes.note hwait hnoted).round hround
  rw [hpolled] at hround
  cases hround with
  | finished _ hsweep =>
      obtain ⟨hmem, rest, _, hrest, hsweep'⟩ := hsweep.rest ht hget hid hcall
      obtain ⟨b', hok, hb, hend⟩ := (hbefore t ht).call hmem hget hid
      cases hcall.symm.trans hok
      obtain ⟨i, s, hindex, hstream, hsettles⟩ := hend hclosed herrors
      refine ⟨i, s, hindex, hstream, fun hpeer => ?_⟩
      obtain ⟨hfinished, htaken, hsettled⟩ := hsettles hpeer
      obtain ⟨s', hstream', hreturned⟩ := hsettled.stream
      obtain rfl := Option.some.inj (hstream.symm.trans hstream')
      refine ⟨hfinished, htaken, hreturned.handed, hreturned.ownEnd, fun d hlater => ?_⟩
      -- from here on the stream is one of those that are settled
      obtain ⟨_, e, he, hswept⟩ := hsweep'.keeps hrest Echoes.calls (hb.settle hsettled)
      cases he
      have hafter := (hswept.noting noted).of_subset (List.nil_subset _)
      have hreach := (h.next (.round a)).reachable
      rw [after_eq_of_ok hpolled] at hlater hreach
      obtain ⟨_, hd⟩ := hafter.later hreach hlater
      exact completes_of_settled (hd.balanced.settled _ List.mem_cons_self)

/-! ## A client that is done -/

/-- Where one connection is ready and the listener is not, its call is the round. -/
theorem Running.turn_of_single {s : Server Unit Unit} {h' : Host} {e : PollEntry}
    (h : Running size a)
    (hbound : a.server.isBound = true) (hwait : a.server.wait a.host = (.ok n, s, h')) (hn : 0 < n)
    (hquiet : (s.polled.result 0).isEmpty = true) (hready : s.readyEntries = [e])
    (hget : s.connections.get? e.fd = some c) :
    ∃ t b, RoundTurns a [t] ∧ t.ready = ⟨e.fd, c.id, e.result⟩
      ∧ t.before = ((⟨s, h', a.data⟩ : Service).noting [t.ready]).noting []
      ∧ handlers.call c t.ready t.before = .ok () b := by
  obtain ⟨turns, hturns, _⟩ := h.exists_turns hbound hwait hn
  obtain ⟨_, _, _, noted, _, hwait', _, hnoted, hround⟩ := id hturns
  cases hwait.symm.trans hwait'
  obtain ⟨_, _, hok, _⟩ := (h.echoes.note hwait hnoted).round hround
  rw [hok] at hround
  rw [hready] at hnoted
  obtain ⟨r, _, ⟨c', hget', rfl⟩, hrest, rfl⟩ := List.forall₂_cons_left_iff.mp hnoted
  obtain rfl := List.forall₂_nil_left_iff.mp hrest
  obtain rfl := Option.some.inj (hget.symm.trans hget')
  cases hround with
  | finished hfirst hsweep =>
      have hlistener :
          handlers.callListener ((⟨s, h', a.data⟩ : Service).noting [⟨e.fd, c.id, e.result⟩])
          = .ok () ((⟨s, h', a.data⟩ : Service).noting [⟨e.fd, c.id, e.result⟩]) := by
        rw [Handlers.callListener]
        exact if_pos hquiet
      cases hfirst.symm.trans hlistener
      cases hsweep with
      | skipped hgone _ => exact absurd ⟨_, Server.mem_roster_of_get? hget, rfl⟩ hgone
      | called hget'' _ hcall hrest =>
          cases hrest
          obtain rfl := Option.some.inj (hget.symm.trans hget'')
          exact ⟨_, _, hturns, rfl, rfl, hcall⟩

/-- One client sent five bytes and then no more, and in the rounds that went by it made room
    for three. Now it reads on. -/
def Loopback.finishing? : Option Service :=
  Loopback.listening?.map fun a =>
    acted 0 (·.setWindow none) <| rounded^[4] <| acted 0 (·.setWindow (some 3)) <|
      acted 0 Stream.peerShutdown <| acted 0 (·.peerSend [1, 2, 3, 4, 5]) a.visit

theorem Loopback.finishing_running (h : Loopback.finishing? = some a) : Running 4 a := by
  obtain ⟨start, hstart, rfl⟩ := Option.map_eq_some_iff.mp h
  have hsent := Loopback.sent_running hstart [1, 2, 3, 4, 5]
  have hdone := hsent.next (.client _ (i := 0) (f := Stream.peerShutdown) fun s _ => .shutdown s)
  have hnarrow := hdone.next (.windowed _ 0 (some 3))
  have hrounds := (((hnarrow.next (.round _)).next (.round _)).next (.round _)).next (.round _)
  exact hrounds.next (.windowed _ 0 none)

/-- The system after a wait. -/
def woken (a : Service) : Service := after (run Server.wait) a

/-- What the call for a writable connection leaves, as the first of a round. -/
def called (c : Connection Unit) (fd : Descriptor) (a : Service) : Service :=
  let r : Ready := ⟨fd, c.id, .writable⟩
  after (handlers.call c r) ((a.noting [r]).noting [])

/-- Two bytes are left, one at the end of the storage and one at its front, and the end of
    the stream has been seen. The next round hands them back and closes the connection. -/
theorem running_orderly_loopback :
    ∃ (app b : Service) (turns : List (EventLoop.Turn Unit Unit Stats))
    (t : EventLoop.Turn Unit Unit Stats) (c : Connection Unit) (s : Stream),
    Loopback.finishing? = some app ∧ RoundTurns app turns ∧ t ∈ turns
      ∧ t.before.server.connections.get? t.ready.fd = some c ∧ c.id = t.ready.id
      ∧ has c.status closing = true ∧ c.output.segments = ([4], [5])
      ∧ handlers.call c t.ready t.before = .ok () b ∧ b.server.connections.get? t.ready.fd = none
      ∧ b.data.errors = t.before.data.errors ∧ b.host.kernel.streams[0]? = some s
      ∧ s.peerEnd = .finished ∧ s.handed = [1, 2, 3, 4, 5] ∧ s.ownEnd = .closed
      ∧ ∀ d, Later (after (Server.poll handlers) app) d →
        Completes d.host.kernel 0 [1, 2, 3, 4, 5] := by
  -- the end of the run is evaluated; that it is a run was shown before
  have hready : Loopback.finishing?.map (fun a => (a.server.isBound, (a.server.wait a.host).1,
      (woken a).server.readyEntries.map fun e => (e.fd, e.result),
        ((woken a).server.polled.result 0).isEmpty))
        = some (true, .ok 1, [(4, .writable)], true) := by decide +kernel
  have hstart :
      Loopback.finishing?.map (fun a => ((woken a).host.kernel.index? 4, (woken a).data.errors))
      = some (some 0, 0) := by decide +kernel
  have hcalled :
      Loopback.finishing?.map (fun a => ((woken a).server.connections.get? 4).map fun c =>
      ((has c.status closing, c.output.segments),
        ((called c 4 (woken a)).server.connections.get? 4).isNone,
          (called c 4 (woken a)).data.errors))
        = some (some ((true, [4], [5]), true, 0)) := by decide +kernel
  have hstream :
      Loopback.finishing?.map (fun a => ((woken a).server.connections.get? 4).bind fun c =>
      ((called c 4 (woken a)).host.kernel.streams[0]?).map fun s => (s.peerEnd, s.arrived))
        = some (some (.finished, [1, 2, 3, 4, 5])) := by decide +kernel
  obtain ⟨app, happ, hparts⟩ := Option.map_eq_some_iff.mp hready
  rw [happ, Option.map_some] at hcalled hstream hstart
  have hrun := Loopback.finishing_running happ
  rcases hwait : app.server.wait app.host with ⟨answer, server, host⟩
  have hwoken : woken app = ⟨server, host, app.data⟩ := by
    rw [woken, after_run, hwait]
  rw [hwoken] at hparts hcalled hstream hstart
  simp only [hwait, Option.some.injEq, Prod.mk.injEq, List.map_eq_singleton_iff,
    Option.map_eq_some_iff] at hparts hcalled hstream hstart
  obtain ⟨hbound, rfl, ⟨e, hentry, hfd, hresult⟩, hquiet⟩ := hparts
  obtain ⟨c, hget, ⟨hclosing, houtput⟩, hgone, herrors⟩ := hcalled
  obtain ⟨hindex, hbefore⟩ := hstart
  rw [hget, Option.bind_some, Option.map_eq_some_iff] at hstream
  obtain ⟨s, hs, hends⟩ := hstream
  obtain ⟨hfinished, harrived⟩ := Prod.mk.inj hends
  rw [← hfd] at hget
  obtain ⟨⟨r, a⟩, b, hturns, hr, ha, hcall⟩ :=
    hrun.turn_of_single hbound hwait (by decide) hquiet hentry hget
  dsimp only at hr ha hcall
  rw [hfd, hresult] at hr
  subst hr ha
  rw [hfd] at hget
  have hleft : called c 4 ⟨server, host, app.data⟩ = b := after_eq_of_ok hcall
  rw [hleft] at hgone herrors hs
  have hclosed := Option.isNone_iff_eq_none.mp hgone
  obtain ⟨i, s', hi, hs', horderly⟩ :=
    running_orderly hrun hturns (List.mem_singleton_self _) hget rfl hcall
    hclosed (herrors.trans hbefore.symm)
  obtain rfl := Option.some.inj (hindex.symm.trans hi)
  obtain rfl := Option.some.inj (hs.symm.trans hs')
  obtain ⟨_, _, hhanded, hend, hlater⟩ := horderly (by rw [hfinished]; decide)
  rw [harrived] at hhanded hlater
  exact ⟨app, b, _, _, c, s, happ, hturns, List.mem_singleton_self _, hget, rfl, hclosing,
    houtput, hcall, hclosed, herrors.trans hbefore.symm, hs, hfinished, hhanded,
    hend, hlater⟩

end EventLoop.Echo
