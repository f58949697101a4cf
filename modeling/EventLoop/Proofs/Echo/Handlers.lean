import EventLoop.Proofs.Echo.Calls
import EventLoop.Proofs.Echo.Invariant

/-! # What the handlers of an echo server do

    Both handlers keep what the server keeps (`Echoes`) and never panic: the one of the
    listener takes clients until none is left (`Echoes.callListener`), the one of connections
    serves a turn and then closes the connection or adjusts its interest
    (`Echoes.onConnection`). A connection that is closed without an error has given
    everything back, unless its peer is gone.

    What they do are steps of a program (`handlers_operate`), wherever they start, so that
    all that holds of servers in general holds of echo servers. -/

namespace EventLoop.Echo

open Application

variable {size : Nat} {settled : List (Nat × Bytes)} {noted : List Ready} {a b : Service}
  {fd : Descriptor} {c : Connection Unit} {events : EventMask} {i : Nat} {s : Stream}

/-! ## Turns -/

/-- A turn goes on from the stream of its connection, and counts one error at most. -/
theorem Echoes.turn_went (h : Echoes size settled noted a)
    (hget : a.server.connections.get? fd = some c)
    (hevents : ∀ s, a.host.kernel.stream? fd = some s → events.isClosed = true →
      s.fault ≠ .intact) :
    ∃ i s s' count, a.host.Joins fd i s ∧ Carries size s c
      ∧ Turn.Went size i s ⟨c, a.data, a.host⟩ count s'
        ((⟨c, a.data, a.host⟩ : Turn).serve events).2
      ∧ count ≤ 1
      ∧ (((⟨c, a.data, a.host⟩ : Turn).serve events).1 = false → count = 0 →
          ((⟨c, a.data, a.host⟩ : Turn).serve events).2.isFinished = true) := by
  obtain ⟨i, s, hjoins, hcarries⟩ := h.exists_stream hget
  obtain ⟨hfd, _⟩ := h.live fd c hget
  have hown : (⟨c, a.data, a.host⟩ : Turn).host.Joins (⟨c, a.data, a.host⟩ : Turn).connection.fd
      i s := by
    show a.host.Joins c.fd i s
    rwa [hfd]
  obtain ⟨s', count, hwent, honce, hfinished⟩ := Turn.serve_went hown hcarries
    (hevents s (Kernel.stream?_eq_some_iff.mpr ⟨i, hjoins.index, hjoins.stream⟩))
  exact ⟨i, s, s', count, hjoins, hcarries, hwent, honce, hfinished⟩

/-- After its turn a connection is still there; without an error it is given up only when
    it is finished. -/
theorem Echoes.takeTurn (h : Echoes size settled noted a)
    (hget : a.server.connections.get? fd = some c)
    (hevents : ∀ s, a.host.kernel.stream? fd = some s → events.isClosed = true →
      s.fault ≠ .intact) :
    ∃ kept b i s c', Echo.takeTurn ⟨fd⟩ events a = .ok kept b ∧ Echoes size settled noted b
      ∧ b.server.connections.get? fd = some c' ∧ a.host.kernel.index? fd = some i
      ∧ b.host.Joins fd i s
      ∧ Carries size s c'
      ∧ (kept = false → b.data.errors = a.data.errors → has c'.status closing = true
          ∧ c'.output.isEmpty = true ∧ c'.input.isEmpty = true) := by
  obtain ⟨i, s, s', count, hjoins, _, hwent, _, hfinished⟩ := h.turn_went hget hevents
  refine ⟨_, _, i, s', _, takeTurn_eq hget events,
    h.serve hget hjoins hwent.id hwent.socket hwent.on hwent.served hwent.carries, ?_, hjoins.index,
    hjoins.after hwent.on, hwent.carries, fun hkept herrors => ?_⟩
  · rw [Server.onConnection, DescriptorTable.get?_modify_self, hget]
    rfl
  · have hcount : count = 0 := by
      have hsum := hwent.errors
      dsimp only at hsum herrors
      omega
    exact Turn.isFinished_iff.mp (hfinished hkept hcount)

/-! ## After the turn -/

/-- Adjusting the interest of a connection keeps the invariant and the connection. -/
theorem Echoes.adjust (h : Echoes size settled noted a)
    (hget : a.server.connections.get? fd = some c) :
    ∃ b c', Echo.adjust ⟨fd⟩ a = .ok () b ∧ Echoes size settled noted b
      ∧ b.server.connections.get? fd = some c' := by
  rw [Echo.adjust, bind_of_ok (Session.connection_of_some hget)]
  generalize hbacklog : (c.hasPendingOutput || !c.input.isEmpty) = backlog
  have hmark := has_closing_watch c.status
  generalize hwanted : wantedWatch c.status c.input.isFull backlog = wanted
  -- only a change of directions asks the set anew
  by_cases hsame : wanted = c.status &&& watchMask
  · refine ⟨a, c, ?_, h, hget⟩
    simp only [hsame, ne_eq, not_true_eq_false, if_false]
    rfl
  · simp only [ne_eq, hsame, not_false_eq_true, if_true]
    cases hset : a.server.setInterest fd (interestFor wanted) with
    | error e =>
        refine ⟨a, c, ?_, h, hget⟩
        rw [bind_of_ok (Session.setInterest_eq hset)]
        rfl
    | ok server =>
        obtain ⟨_, polled, _, rfl⟩ := Server.setInterest_cases hset
        rw [bind_of_ok (Session.setInterest_eq hset)]
        have htuned :
            Echoes size settled noted { a with server := { a.server with polled := polled } } :=
          h.quiet rfl rfl rfl (.of_files rfl rfl)
        have hmarked : ∀ t, a.server.connections.get? fd = some t →
            has (t.status &&& ~~~watchMask ||| wanted) closing = true →
            has t.status closing = true := by
          intro t _ hset
          rwa [← hwanted, has_closing_watch] at hset
        have hfound : (a.server.connections.modify fd fun t =>
            { t with status := t.status &&& ~~~watchMask ||| wanted }).get? fd
              = some { c with status := c.status &&& ~~~watchMask ||| wanted } := by
          rw [DescriptorTable.get?_modify_self, hget]
          rfl
        refine ⟨_, _, ?_, htuned.setStatus fd (fun status => status &&& ~~~watchMask ||| wanted)
          hmarked, hfound⟩
        exact Session.update_of_some _ hget

/-- Closing a connection keeps the invariant, whatever it still held. -/
theorem Echoes.close (h : Echoes size settled noted a)
    (hget : a.server.connections.get? fd = some c) :
    ∃ b, Echo.close ⟨fd⟩ a = .ok () b ∧ Echoes size settled noted b
      ∧ b.host.kernel = a.host.kernel.close fd
      ∧ b.data.errors = a.data.errors ∧ b.server.connections.get? fd = none := by
  obtain ⟨hnone, _⟩ | ⟨c', hfound, h', hdisconnect, hkernel⟩ := a.server.disconnect_cases fd a.host
  · cases hget.symm.trans hnone
  · obtain ⟨hfd, _⟩ := h.live fd c' hfound
    rw [hfd] at hkernel
    have hdisconnected : (⟨fd⟩ : Session).disconnect a = .ok true
        { a with
          server := { a.server with
            connections := a.server.connections.erase fd, polled := (a.server.polled.remove fd).2 }
          host := h' } := run_eq hdisconnect
    rw [Echo.close, bind_of_ok hdisconnected]
    refine ⟨_, rfl, ?_, hkernel, rfl, DescriptorTable.get?_erase_self _ _⟩
    refine h.release hkernel rfl rfl fun other t hother => ?_
    have hother' : (a.server.connections.erase fd).get? other = some t := hother
    have hne : other ≠ fd := by
      rintro rfl
      cases (DescriptorTable.get?_erase_self _ _).symm.trans hother'
    rw [DescriptorTable.get?_erase_of_ne _ hne] at hother'
    exact ⟨hne, hother'⟩

/-- The whole call. A connection that is closed without an error, and whose peer is not
    gone, has given everything back. -/
theorem Echoes.onConnection (h : Echoes size settled noted a)
    (hget : a.server.connections.get? fd = some c)
    (hevents : ∀ s, a.host.kernel.stream? fd = some s → events.isClosed = true →
      s.fault ≠ .intact) :
    ∃ b, Echo.onConnection fd events a = .ok () b ∧ Echoes size settled noted b
      ∧ (b.server.connections.get? fd = none → b.data.errors = a.data.errors →
          ∃ i s, a.host.kernel.index? fd = some i ∧ b.host.kernel.streams[i]? = some s
            ∧ (s.peerEnd ≠ .gone → s.peerEnd = .finished ∧ s.taken = s.arrived.length
                ∧ b.host.kernel.Settled i s.arrived)) := by
  obtain ⟨kept, t, i, s, c', hturn, hechoes, hfound, hindex, hjoins, hcarries, hdone⟩ :=
    h.takeTurn hget hevents
  rw [Echo.onConnection, bind_of_ok hturn]
  cases kept with
  | true =>
      obtain ⟨b, c'', hadjust, hb, hlive⟩ := hechoes.adjust hfound
      exact ⟨b, hadjust, hb, fun hclosed => by cases hlive.symm.trans hclosed⟩
  | false =>
      obtain ⟨b, hclose, hb, hkernel, herrors, _⟩ := hechoes.close hfound
      refine ⟨b, hclose, hb, fun _ hcount => ⟨i, s.close, hindex, ?_, fun hpeer => ?_⟩⟩
      · rw [hkernel, Kernel.streams_close_of_index hjoins.index, List.getElem?_modify_eq,
          hjoins.stream]
        rfl
      · -- nothing is left to take and the buffers are empty, so that closing settles the stream
        obtain ⟨hclosing, houtput, hinput⟩ := hdone rfl (herrors.symm.trans hcount)
        obtain ⟨hfinished, htaken, hhanded⟩ := hcarries.finished hclosing houtput hinput hpeer
        have hsettled := hechoes.balanced.tidy.settled_close hjoins.index hjoins.stream
          (Stream.unread_eq_nil_iff.mpr (Nat.le_of_eq htaken.symm)) hhanded
          fun hsending => by cases hfinished.symm.trans hsending
        rw [hkernel]
        exact ⟨hfinished, htaken, hsettled⟩

/-! ## Accepting -/

theorem Echoes.refused {e : Error} {server : Server Unit Unit} {host : Host}
    (h : Echoes size settled noted a)
    (haccept : a.server.accept () a.host = (.error e, server, host)) :
    Echoes size settled noted { a with host := host } := by
  obtain hkernel | ⟨l, fd, first, k, _, haccepts, hkernel⟩ := Server.kernel_of_refused haccept
  · exact h.quiet rfl rfl rfl (.of_files (by rw [hkernel]) (by rw [hkernel]))
  · refine (h.take haccepts).release hkernel rfl rfl fun other c hget => ⟨?_, hget⟩
    rintro rfl
    cases (h.get?_of_fresh haccepts.fresh).symm.trans hget

/-- A client that was let in comes with a stream that is idle. -/
theorem Echoes.admitted {server : Server Unit Unit} {host : Host} (h : Echoes size settled noted a)
    (haccept : a.server.accept () a.host = (.ok fd, server, host)) :
    Echoes size settled noted
      { a with
        server := server.onConnection fd fun c => { c with status := watchMask },
        host := host } := by
  obtain ⟨_, _, _, _, haccepts, hadmits, hkernel⟩ := Server.admits_of_accept haccept
  have hunmarked : has watchMask closing = false := rfl
  refine (h.admission haccepts hadmits hkernel).setStatus fd (fun _ => watchMask) fun _ _ hset => ?_
  cases hunmarked.symm.trans hset

/-- The call of the listener returns, however many clients wait, and keeps the invariant. -/
theorem Echoes.callListener (h : Echoes size settled noted a) :
    ∃ b, handlers.callListener a = .ok () b ∧ Echoes size settled noted b :=
  callListener_keeps (fun _ _ ha => ha.quiet rfl rfl rfl (.of_files rfl rfl))
    (fun _ level message ha => ha.log level message)
    (fun _ _ _ ha haccept => ha.refused haccept) (fun _ _ _ _ ha haccept => ha.admitted haccept) h

/-! ## Handlers are steps -/

namespace Turn

/-- The connection keeps its place and its status but for the mark, and what is open stays
    open. -/
structure Keeps (t t' : Turn) : Prop where
  id : t'.connection.id = t.connection.id
  socket : t'.connection.socket = t.connection.socket
  status : t'.connection.status = t.connection.status
    ∨ t'.connection.status = t.connection.status ||| closing
  opened : t'.host.openDescriptors = t.host.openDescriptors

theorem Keeps.trans {t t' t'' : Turn} (h : Keeps t t') (h' : Keeps t' t'') : Keeps t t'' := by
  refine ⟨h'.id.trans h.id, h'.socket.trans h.socket, ?_, h'.opened.trans h.opened⟩
  rcases h.status with hsame | hmarked
  · rw [← hsame]
    exact h'.status
  · refine .inr ?_
    rcases h'.status with hsame' | hmarked'
    · exact hsame'.trans hmarked
    · rw [hmarked', hmarked, BitVec.or_assoc, BitVec.or_self]

/-- The turn that a part of it leaves, failed or not. -/
def Outcome.left : Outcome → Turn
  | .ok t => t
  | .error t => t

/-- Receiving keeps the place of the connection and all open files. -/
theorem receive_keeps (t : Turn) (events : EventMask) :
    Keeps t (Outcome.left (t.receive events)) := by
  have hopen := t.connection.openDescriptors_receive t.host
  have hid : (t.connection.receive t.host).2.1.id = t.connection.id := rfl
  have hsocket : (t.connection.receive t.host).2.1.socket = t.connection.socket := rfl
  have hstatus : (t.connection.receive t.host).2.1.status = t.connection.status := rfl
  rw [receive]
  split
  · rcases hreceive : t.connection.receive t.host with ⟨r, c, h⟩
    rw [hreceive] at hopen hid hsocket hstatus
    rcases r with e | count | - | -
    · exact ⟨hid, hsocket, .inl hstatus, hopen⟩
    · dsimp only [Outcome.left]
      rw [countReceived]
      split <;> exact ⟨hid, hsocket, .inl hstatus, hopen⟩
    · exact ⟨hid, hsocket, .inl hstatus, hopen⟩
    · exact ⟨hid, hsocket, .inr (congrArg (· ||| closing) hstatus), hopen⟩
  · split
    · exact ⟨rfl, rfl, .inr rfl, rfl⟩
    · exact ⟨rfl, rfl, .inl rfl, rfl⟩

theorem pump_keeps (t : Turn) : Keeps t t.pump := by
  obtain ⟨input, output, hpump⟩ := pumpWithin_alone (t.connection.input.length + 1) t.connection
  rw [pump, Echo.pump, hpump]
  exact ⟨rfl, rfl, .inl rfl, rfl⟩

theorem send_keeps (t : Turn) : Keeps t (Outcome.left t.send) := by
  have hopen := t.connection.openDescriptors_flush t.host
  have hid : (t.connection.flush t.host).2.1.id = t.connection.id := rfl
  have hsocket : (t.connection.flush t.host).2.1.socket = t.connection.socket := rfl
  have hstatus : (t.connection.flush t.host).2.1.status = t.connection.status := rfl
  rw [send]
  split
  · rcases hflush : t.connection.flush t.host with ⟨r, c, h⟩
    rw [hflush] at hopen hid hsocket hstatus
    rcases r with e | _ | count
    · exact ⟨hid, hsocket, .inl hstatus, hopen⟩
    · exact ⟨hid, hsocket, .inl hstatus, hopen⟩
    · have hsent : Keeps t ({ t with connection := c, host := h }.countSent (count + 1)) :=
        ⟨hid, hsocket, .inl hstatus, hopen⟩
      exact hsent.trans (pump_keeps _)
  · exact ⟨rfl, rfl, .inl rfl, rfl⟩

theorem serve_keeps (t : Turn) (events : EventMask) : Keeps t (t.serve events).2 := by
  have hkeeps :
      Keeps t (Outcome.left
        (if events.intersects (EventMask.error ||| EventMask.invalid) then t.fail
      else do (← t.receive events).pump.send)) := by
    split
    · exact ⟨rfl, rfl, .inl rfl, rfl⟩
    · have hreceived := t.receive_keeps events
      cases hreceive : t.receive events with
      | error t' =>
          rw [hreceive] at hreceived
          exact hreceived
      | ok t' =>
          rw [hreceive] at hreceived
          exact hreceived.trans ((pump_keeps t').trans (send_keeps t'.pump))
  rw [serve]
  generalize (if events.intersects (EventMask.error ||| EventMask.invalid) then t.fail
    else do (← t.receive events).pump.send) = outcome at hkeeps ⊢
  cases outcome <;> exact hkeeps

/-- Whoever is kept is not finished. -/
theorem serve_kept {t t' : Turn} {events : EventMask} (h : t.serve events = (true, t')) :
    t'.isFinished = false := by
  rw [serve] at h
  generalize (if events.intersects (EventMask.error ||| EventMask.invalid) then t.fail
    else do (← t.receive events).pump.send) = outcome at h
  cases outcome with
  | ok left =>
      obtain ⟨hkept, rfl⟩ := Prod.mk.inj h
      rw [← Bool.not_eq_true']
      exact hkept
  | error left => cases h

end Turn

theorem count_operates (f : Stats → Stats) : Operates (Echo.count f) :=
  operates_of_step fun a => .data a (f a.data)

theorem log_operates (level : Log.Level) (message : String) :
    Operates (Application.log level message : Activity Unit) :=
  operates_of_step fun a => .world a fun _ hfd => hfd

/-- A turn takes steps of a program only, with whatever session. -/
theorem takeTurn_operates (session : Session) (events : EventMask) :
    Operates (takeTurn session events) := by
  intro a
  cases hget : a.server.connections.get? session.fd with
  | none =>
      rw [takeTurn, after_eq_of_error (bind_of_error (Session.connection_of_none hget))]
      exact .refl
  | some c =>
      have hkeeps := Turn.serve_keeps ⟨c, a.data, a.host⟩ events
      rw [after_eq_of_ok (takeTurn_eq hget events)]
      refine .tail (.single (.use a (fun t ht => ?_) fun _ hfd => hkeeps.opened ▸ hfd)) (.data _ _)
      obtain rfl := Option.some.inj (hget.symm.trans ht)
      exact ⟨hkeeps.id, hkeeps.socket⟩

theorem onConnection_operates (fd : Descriptor) (events : EventMask) :
    Operates (Echo.onConnection fd events) := by
  refine operates_bind (takeTurn_operates ⟨fd⟩ events) fun kept => ?_
  cases kept with
  | true =>
      refine operates_bind (Session.connection_operates ⟨fd⟩) fun c => ?_
      dsimp only
      split
      · refine operates_bind (Session.setInterest_operates ⟨fd⟩ _) fun r => ?_
        cases r with
        | ok _ => exact Session.update_operates ⟨fd⟩ fun c => ⟨rfl, rfl⟩
        | error _ => exact operates_pure ()
      · exact operates_pure ()
  | false =>
      refine operates_bind (Session.disconnect_operates ⟨fd⟩) fun disconnected => ?_
      split
      · exact count_operates _
      · exact operates_pure ()

theorem acceptWithin_operates (limit : Nat) : Operates (Echo.acceptWithin limit) := by
  -- on the attempts, each of which is a step or two
  induction limit with
  | zero => exact operates_pure ()
  | succ limit ih =>
      refine operates_bind (operates_of_step fun a => .accept a ()) fun r => ?_
      rcases r with e | fd
      · cases e with
        | capacityExceeded _ => exact operates_bind (count_operates _) fun _ => ih
        | _ =>
            dsimp only
            split
            · split
              · exact operates_bind (log_operates _ _) fun _ => count_operates _
              · exact count_operates _
            · exact operates_pure ()
      · refine operates_bind (operates_of_step fun a => ?_) fun _ =>
          operates_bind (count_operates _) fun _ => ih
        exact .use a (fun c _ => ⟨rfl, rfl⟩) fun _ hfd => hfd

theorem onListen_operates (events : EventMask) : Operates (Echo.onListen events) := by
  rw [Echo.onListen]
  split
  · intro a
    exact acceptWithin_operates _ a
  · exact operates_pure ()

/-- The handlers of an echo server run no rounds of their own. -/
theorem handlers_operate : handlers.Operate where
  onListen := fun _ events => onListen_operates events
  onConnection := fun _ fd events => onConnection_operates fd events

end EventLoop.Echo
