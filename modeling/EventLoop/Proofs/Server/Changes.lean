import EventLoop.Proofs.Server.Reachable

/-! # What a step changes

    Readiness set, table, listener and open descriptors change together, in one of
    five ways (`Change`): not at all, by an admission, by a removal, by a new
    interest, or by the end of everything. `Step.change` says that these are all;
    an invariant of servers is proved case by case from them.

    The uses of a connection's buffers are among the steps (`Step.queue`,
    `Step.flush`, `Step.receive`): they keep id and socket, and the system closes
    nothing meanwhile (`Step.ofUse`). -/

namespace EventLoop

open Application

variable {L C D : Type} {a b : Application L C D}

/-- The ways in which set, table, listener, ids and open descriptors can change in a
    step from `a` to `b`. -/
inductive Change (a b : Application L C D) : Prop
  /-- All stay as they are, but for the timeout of the set and more open files. -/
  | quiet (timeout : Int)
      (hpolled : b.server.polled = a.server.polled.setTimeout timeout)
      (hlistener : b.server.listener = a.server.listener)
      (hroster : b.server.roster = a.server.roster)
      (hnext : b.server.nextId = a.server.nextId)
      (hopen : a.host.openDescriptors ⊆ b.host.openDescriptors)
  /-- A connection comes in under a descriptor that was not open. -/
  | admitted (fd : Descriptor) (hbound : a.server.listener.isSome = true)
      (hadd : a.server.polled.add fd .connection = .ok b.server.polled)
      (hlistener : b.server.listener = a.server.listener)
      (hroster : b.server.roster = a.server.roster ++ [⟨fd, a.server.nextId, ⟨fd⟩⟩])
      (hnext : b.server.nextId = a.server.nextId + 1)
      (hfresh : fd ∉ a.host.openDescriptors)
      (hopen : b.host.openDescriptors = fd :: a.host.openDescriptors)
  /-- A connection is removed and its socket closed. -/
  | removed (x : Seat) (hmem : x ∈ a.server.roster)
      (hpolled : b.server.polled = (a.server.polled.remove x.key).2)
      (hlistener : b.server.listener = a.server.listener)
      (hroster : b.server.roster = a.server.roster.filter (·.key ≠ x.key))
      (hnext : b.server.nextId = a.server.nextId)
      (hopen : b.host.openDescriptors = a.host.openDescriptors.erase x.socket.fd)
  /-- A connection is watched for something else. -/
  | retuned (fd : Descriptor) (interest : EventMask) (hmem : fd ∈ a.server.roster.map Seat.key)
      (hadd : a.server.polled.add fd interest = .ok b.server.polled)
      (hlistener : b.server.listener = a.server.listener)
      (hroster : b.server.roster = a.server.roster)
      (hnext : b.server.nextId = a.server.nextId)
      (hopen : b.host.openDescriptors = a.host.openDescriptors)
  /-- Nothing is left. -/
  | closed (hpolled : b.server.polled = a.server.polled.clear)
      (hlistener : b.server.listener = none)
      (hroster : b.server.roster = [])
      (hnext : b.server.nextId = a.server.nextId)

/-- A step that touches neither set nor table nor listener is quiet. -/
theorem Change.of_eq (hpolled : b.server.polled = a.server.polled)
    (hconnections : b.server.connections = a.server.connections)
    (hlistener : b.server.listener = a.server.listener) (hnext : b.server.nextId = a.server.nextId)
    (hopen : a.host.openDescriptors ⊆ b.host.openDescriptors) : Change a b := by
  refine .quiet a.server.polled.timeout hpolled hlistener ?_ hnext hopen
  rw [Server.roster, hconnections, Server.roster]

/-- Accepting changes a server in one of the ways, whether it succeeds or not. -/
theorem change_accept (a : Application L C D) (handler : C) :
    Change a (after (run (·.accept handler)) a) := by
  rw [after_run]
  obtain ⟨e, h', haccept, hopen⟩ | ⟨fd, s', h', haccept, hbound, hfresh, hadmits, hopen⟩ :=
    a.server.accept_cases handler a.host
  · rw [haccept]
    exact .of_eq rfl rfl rfl rfl fun fd hfd => hopen ▸ hfd
  · rw [haccept]
    exact .admitted fd hbound hadmits.polled hadmits.listener hadmits.roster
      hadmits.nextId hfresh hopen

theorem change_disconnect (a : Application L C D) (fd : Descriptor) :
    Change a (after (run (·.disconnect fd)) a) := by
  rw [after_run]
  obtain ⟨_, h', hdisconnect, hkernel⟩ | ⟨c, hget, h', hdisconnect, hkernel⟩ :=
    a.server.disconnect_cases fd a.host
  · rw [hdisconnect]
    refine .of_eq rfl rfl rfl rfl fun fd hfd => ?_
    rw [Host.openDescriptors, hkernel]
    exact hfd
  · rw [hdisconnect]
    refine .removed ⟨fd, c.id, c.socket⟩ (Server.mem_roster_of_get? hget) rfl rfl
      (Server.roster_erase _ _) rfl ?_
    rw [Host.openDescriptors, hkernel, Kernel.openDescriptors_close, Host.openDescriptors]
    rfl

/-- An interest is refused, which changes nothing, or set in the set alone. -/
theorem after_setInterest (a : Application L C D) (fd : Descriptor) (interest : EventMask) :
    (∃ e, a.server.setInterest fd interest = .error e
        ∧ after (Session.setInterest ⟨fd⟩ interest) a = a)
      ∨ ∃ s', a.server.setInterest fd interest = .ok s'
        ∧ after (Session.setInterest ⟨fd⟩ interest) a = { a with server := s' } := by
  rw [Session.setInterest, after_run]
  cases a.server.setInterest fd interest with
  | error e => exact .inl ⟨e, rfl, rfl⟩
  | ok s' => exact .inr ⟨s', rfl, rfl⟩

/-- Setting an interest is a change in the set or none. -/
theorem change_setInterest (a : Application L C D) (fd : Descriptor) (interest : EventMask) :
    Change a (after (Session.setInterest ⟨fd⟩ interest) a) := by
  obtain ⟨e, _, hafter⟩ | ⟨s', hset, hafter⟩ := after_setInterest a fd interest
  · rw [hafter]
    exact .of_eq rfl rfl rfl rfl fun _ h => h
  · obtain ⟨hmem, polled, hadd, rfl⟩ := Server.setInterest_cases hset
    rw [hafter]
    rw [Server.keys_eq_roster] at hmem
    exact .retuned fd interest hmem hadd rfl rfl rfl rfl

/-- Cleaning up closes all that the server holds. -/
theorem change_cleanup (a : Application L C D) :
    Change a (after (run fun s h => ((), s.cleanup h)) a) := by
  rw [after_run]
  refine .closed ?_ ?_ ?_ ?_
  all_goals
    dsimp only
    rw [Server.cleanup_server]
  rfl

/-- Every step is one of the five changes. -/
theorem Step.change (hkeys : a.server.connections.keys.Nodup) (h : Step a b) : Change a b := by
  cases h with
  | accept handler => exact change_accept a handler
  | disconnect fd => exact change_disconnect a fd
  | setInterest fd interest => exact change_setInterest a fd interest
  | cleanup => exact change_cleanup a
  | setTimeout timeout => exact .quiet timeout rfl rfl rfl rfl fun _ h => h
  | setHandler handler => exact .of_eq rfl rfl rfl rfl fun _ h => h
  | keep userData => exact .of_eq rfl rfl rfl rfl fun _ h => h
  | use hkept hopen =>
      -- the only step that writes into the table without adding or removing
      exact .quiet a.server.polled.timeout rfl rfl (Server.roster_onConnection hkeys hkept)
        rfl hopen
  | world hopen => exact .of_eq rfl rfl rfl rfl hopen
  | data data => exact .of_eq rfl rfl rfl rfl fun _ h => h

/-- No step writes on the note of ready connections or on the limits. -/
theorem Step.fixed (h : Step a b) :
    b.server.ready = a.server.ready ∧ b.server.config = a.server.config := by
  -- no step writes either of the two fields
  cases h with
  | accept handler =>
      obtain ⟨e, h', haccept, _⟩ | ⟨fd, s', h', haccept, _, _, hadmits, _⟩ :=
        a.server.accept_cases handler a.host
      · rw [after_run, haccept]
        exact ⟨rfl, rfl⟩
      · rw [after_run, haccept]
        exact ⟨hadmits.ready, hadmits.config⟩
  | disconnect fd =>
      obtain ⟨_, h', hdisconnect, _⟩ | ⟨c, _, h', hdisconnect, _⟩ :=
        a.server.disconnect_cases fd a.host
      · rw [after_run, hdisconnect]
        exact ⟨rfl, rfl⟩
      · rw [after_run, hdisconnect]
        exact ⟨rfl, rfl⟩
  | setInterest fd interest =>
      obtain ⟨e, _, hafter⟩ | ⟨s', hset, hafter⟩ := after_setInterest a fd interest
      · rw [hafter]
        exact ⟨rfl, rfl⟩
      · obtain ⟨_, polled, _, rfl⟩ := Server.setInterest_cases hset
        rw [hafter]
        exact ⟨rfl, rfl⟩
  | cleanup =>
      rw [after_run]
      dsimp only
      rw [Server.cleanup_server]
      exact ⟨rfl, rfl⟩
  | setTimeout timeout => exact ⟨rfl, rfl⟩
  | setHandler handler => exact ⟨rfl, rfl⟩
  | keep userData => exact ⟨rfl, rfl⟩
  | use hkept hopen => exact ⟨rfl, rfl⟩
  | world hopen => exact ⟨rfl, rfl⟩
  | data data => exact ⟨rfl, rfl⟩

/-- What a round has noted is not for the program to change. -/
theorem Step.ready (h : Step a b) : b.server.ready = a.server.ready := h.fixed.1

theorem Step.config (h : Step a b) : b.server.config = a.server.config := h.fixed.2

theorem Operated.ready (h : Operated a b) : b.server.ready = a.server.ready := by
  induction h with
  | refl => rfl
  | tail _ hstep ih => exact hstep.ready.trans ih

/-! ## Uses of the buffers -/

namespace RingBuffer

variable {σ : Type} {t : Transport σ} {P : σ → Prop}

/-- A flush keeps what every write keeps. -/
theorem flushTo_keeps (hsend : ∀ data s, P s → P (t.send data s).2)
    (hpair : ∀ first second s, P s → P (t.sendPair first second s).2) (b : RingBuffer)
    {s : σ} (hs : P s) :
    P (b.flushTo t s).2.2 := by
  rw [flushTo]
  by_cases hempty : b.isEmpty = true
  · rw [if_pos hempty]
    exact hs
  · rw [if_neg hempty]
    have hwrite : P (if b.segments.2.isEmpty then t.send b.segments.1 s
        else t.sendPair b.segments.1 b.segments.2 s).2 := by
      by_cases hsecond : b.segments.2.isEmpty = true
      · rw [if_pos hsecond]
        exact hsend _ _ hs
      · rw [if_neg hsecond]
        exact hpair _ _ _ hs
    dsimp only
    -- what was written, or why not, decides the answer and the buffer only
    revert hwrite
    rcases (if b.segments.2.isEmpty then t.send b.segments.1 s
      else t.sendPair b.segments.1 b.segments.2 s) with ⟨e | sent, s'⟩
    · exact fun h => h
    · exact fun h => h

/-- A fill keeps what every receive keeps. -/
theorem fillRuns_keeps (hrecv : ∀ room s, P s → P (t.recv room s).2) (runs : Nat) :
    ∀ (total : Nat) (b : RingBuffer) (s : σ), P s → P (fillRuns t runs total b s).2.2 := by
  induction runs with
  | zero => exact fun _ _ _ hs => hs
  | succ runs ih =>
      intro total b s hs
      rw [fillRuns]
      by_cases hroom : b.available = 0
      · rw [if_pos hroom]
        exact hs
      · rw [if_neg hroom]
        have hkept := hrecv b.freeRun s hs
        rcases hanswer : t.recv b.freeRun s with ⟨e | data | - | -, s'⟩
        all_goals
          rw [hanswer] at hkept
          dsimp only
        · exact hkept
        · -- a run that was filled is followed by the next one
          by_cases hshort : data.length < b.freeRun
          · rw [if_pos hshort]
            exact hkept
          · rw [if_neg hshort]
            exact ih _ _ _ hkept
        · exact hkept
        · exact hkept

end RingBuffer

namespace Socket

theorem openDescriptors_send (s : Socket) (data : Bytes) (h : Host) :
    (s.send data h).2.openDescriptors = h.openDescriptors := by
  have hkernel := h.kernel.openDescriptors_send s.fd data
  rw [send]
  rcases hresult : h.kernel.send s.fd data with ⟨e | n, k⟩
  all_goals
    rw [hresult] at hkernel
    dsimp only
  · by_cases hagain : e = .again
    · rw [if_pos hagain]
      exact hkernel
    · rw [if_neg hagain, failed]
      exact hkernel
  · exact hkernel

theorem openDescriptors_recv (s : Socket) (room : Nat) (h : Host) :
    (s.recv room h).2.openDescriptors = h.openDescriptors := by
  have hkernel := h.kernel.openDescriptors_recv s.fd room
  rw [recv]
  rcases hresult : h.kernel.recv s.fd room with ⟨e | arrival, k⟩
  all_goals
    rw [hresult] at hkernel
    dsimp only
  · by_cases hagain : e = .again
    · rw [if_pos hagain]
      exact hkernel
    · rw [if_neg hagain, failed]
      exact hkernel
  · exact hkernel

end Socket

namespace Connection

/-- Sending and receiving happen on the socket and open and close nothing. -/
theorem openDescriptors_flush (c : Connection C) (h : Host) :
    (c.flush h).2.2.openDescriptors = h.openDescriptors :=
  RingBuffer.flushTo_keeps (t := c.socket.transport)
    (fun data h' hh => (c.socket.openDescriptors_send data h').trans hh)
    (fun first second h' hh => (c.socket.openDescriptors_send (first ++ second) h').trans hh)
      c.output rfl

/-- Receiving opens and closes nothing. -/
theorem openDescriptors_receive (c : Connection C) (h : Host) :
    (c.receive h).2.2.openDescriptors = h.openDescriptors :=
  RingBuffer.fillRuns_keeps (t := c.socket.transport)
    (fun room h' hh => (c.socket.openDescriptors_recv room h').trans hh) 2 0 c.input h rfl

end Connection

/-- The connection and the host after a use of the connection under a descriptor. -/
def Application.used {α : Type} (a : Application L C D) (fd : Descriptor)
    (use : α × Connection C × Host) :
    Application L C D :=
  { a with server := a.server.onConnection fd fun _ => use.2.1, host := use.2.2 }

section

variable {fd : Descriptor} {c : Connection C} (hget : a.server.connections.get? fd = some c)

include hget

/-- A use that keeps id and socket, and everything open, is a step. -/
theorem Step.ofUse {α : Type} {use : α × Connection C × Host} (hid : use.2.1.id = c.id)
    (hsocket : use.2.1.socket = c.socket)
    (hopen : use.2.2.openDescriptors = a.host.openDescriptors) : Step a (a.used fd use) := by
  refine .use a ?_ fun _ hfd => hopen ▸ hfd
  intro c' hget'
  obtain rfl := Option.some.inj (hget.symm.trans hget')
  exact ⟨hid, hsocket⟩

/-- Queueing bytes on a connection is a step of a program. -/
theorem Step.queue (data : Bytes) (allowGrow : Bool) :
    Step a (a.used fd (c.queue data allowGrow a.host)) := .ofUse hget rfl rfl rfl

theorem Step.flush : Step a (a.used fd (c.flush a.host)) :=
  .ofUse hget rfl rfl (c.openDescriptors_flush a.host)

theorem Step.receive : Step a (a.used fd (c.receive a.host)) :=
  .ofUse hget rfl rfl (c.openDescriptors_receive a.host)

end

end EventLoop
