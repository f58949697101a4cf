import EventLoop.Proofs.Echo.Handlers
import EventLoop.Proofs.Server.Binding
import EventLoop.Proofs.Server.Dispatch

/-! # Runs of an echo server

    A run starts with a server that was bound on a host on which nothing was open, and
    goes on with what clients, the host and the program do between rounds, and with
    rounds (`Happens`, `Running`).

    * A call keeps the invariant (`Echoes.call`), and so does a round (`Echoes.round`).
      What is noted in a round is true of the streams that the wait looked at
      (`Echoes.note`), and stays true during the round.
    * `Running.echoes` is the induction on the run; `Echoes.later` is the same from any
      system on, with streams that are settled by then.
    * A round in which connections are ready has one turn for each of them
      (`Running.exists_turns`). -/

namespace EventLoop.Echo

open Application
open Kernel (Balanced)

variable {size n : Nat} {settled : List (Nat × Bytes)} {noted : List Ready} {a b w : Service}
  {c : Connection Unit} {r : Ready} {turns : List (EventLoop.Turn Unit Unit Stats)}
  {t : EventLoop.Turn Unit Unit Stats}

/-! ## Runs -/

/-- What happens to an echo server between rounds, and the rounds. Clients connect, to
    this address or another, and act on their streams, which they also open or shut as far
    as they like, so that sends take any part of what they are given; memory, limits and
    the log are whatever they like to be, as long as files and streams stay as they are. -/
inductive Happens : Service → Service → Prop
  | connect (a : Service) (address : Address) :
      Happens a { a with host := { a.host with kernel := (a.host.kernel.connect address).2 } }
  | client (a : Service) {i : Nat} {f : Stream → Stream}
      (hacts : ∀ s, a.host.kernel.streams[i]? = some s → s.Acts (f s)) :
      Happens a { a with host := { a.host with kernel := a.host.kernel.onStream i f } }
  | host (a : Service) {h : Host} (hfiles : h.kernel.files = a.host.kernel.files)
      (hstreams : h.kernel.streams = a.host.kernel.streams) : Happens a { a with host := h }
  | timeout (a : Service) (timeout : Int) : Happens a (after (onServer (·.setTimeout timeout)) a)
  | round (a : Service) : Happens a (after (Server.poll handlers) a)
  | cleanup (a : Service) : Happens a (after (run fun s h => ((), s.cleanup h)) a)

/-- The systems that come up in runs of echo servers with buffers of a given size. -/
inductive Running (size : Nat) : Service → Prop
  | start {address : String} {config : Config} {h h' : Host} {s : Server Unit Unit}
      (hsize : config.bufferSize = size) (hfiles : h.kernel.files = [])
      (hstreams : h.kernel.streams = [])
      (hbind : Server.bind address () config h = (.ok s, h')) : Running size ⟨s, h', .zero⟩
  | next {a b : Service} (h : Running size a) (hnext : Happens a b) : Running size b

/-- What comes after a system, itself included. -/
def Later : Service → Service → Prop := Relation.ReflTransGen Happens

/-- The turns of the next round, in which something is ready. -/
def RoundTurns (a : Service) (turns : List (EventLoop.Turn Unit Unit Stats)) : Prop :=
  ∃ n s h noted, a.server.isBound = true ∧ a.server.wait a.host = (.ok n, s, h) ∧ 0 < n
    ∧ List.Forall₂ s.Notes s.readyEntries noted
    ∧ Round handlers n noted { a with server := s, host := h } turns (Server.poll handlers a)

theorem Happens.reaches (h : Happens a b) : Reaches a b := by
  cases h with
  | connect address =>
      refine .single (.step (.world a fun fd hfd => ?_))
      show fd ∈ (a.host.kernel.connect address).2.openDescriptors
      rw [Kernel.openDescriptors_connect]
      exact hfd
  | client _ => exact .single (.step (.world a fun _ hfd => hfd))
  | host hfiles _ =>
      refine .single (.step (.world a fun fd hfd => ?_))
      rw [Host.openDescriptors, Kernel.openDescriptors, hfiles]
      exact hfd
  | timeout timeout => exact .single (.step (.setTimeout a timeout))
  | round => exact Server.poll_moves handlers_operate.move a
  | cleanup => exact .single (.step (.cleanup a))

theorem Running.reachable (h : Running size a) : Reachable a := by
  induction h with
  | start _ _ _ hbind => exact ⟨_, _, _, _, _, _, _, hbind, .refl⟩
  | next _ hnext ih => exact ih.of_reaches hnext.reaches

/-! ## Calls -/

namespace Echoes

theorem traced (h : Echoes size settled noted a) (message : String) :
    Echoes size settled noted (a.traced message) :=
  h.log .trace message

/-- The call for a noted connection returns and keeps the invariant. If the connection is
    gone after it and no error was counted, everything that came was handed back. -/
theorem call (h : Echoes size settled noted a) (hr : r ∈ noted)
    (hget : a.server.connections.get? r.fd = some c) (hid : c.id = r.id) :
    ∃ b, handlers.call c r a = .ok () b ∧ Echoes size settled noted b
      ∧ (b.server.connections.get? r.fd = none → b.data.errors = a.data.errors →
          ∃ i s, a.host.kernel.index? r.fd = some i ∧ b.host.kernel.streams[i]? = some s
            ∧ (s.peerEnd ≠ .gone → s.peerEnd = .finished ∧ s.taken = s.arrived.length
                ∧ b.host.kernel.Settled i s.arrived)) := by
  obtain ⟨_, htruthful⟩ := h.truthful r hr
  exact (h.traced s!"dispatch fd {r.fd} {r.events.inspect}").onConnection hget
    fun s hs hclosed => htruthful c s hget hid hs hclosed

/-- So all the calls of a round return and keep it. -/
theorem calls : ∀ r ∈ noted, ∀ (a : Service) (c : Connection Unit), Echoes size settled noted a →
    a.server.connections.get? r.fd = some c → c.id = r.id →
      ∃ b, handlers.call c r a = .ok () b ∧ Echoes size settled noted b := by
  intro r hr a c ha hget hid
  obtain ⟨b, hok, hb, _⟩ := ha.call hr hget hid
  exact ⟨b, hok, hb⟩

/-! ## Rounds -/

theorem noting (h : Echoes size settled noted a) (ready : List Ready) :
    Echoes size settled noted (a.noting ready) := h.quiet rfl rfl rfl (.of_files rfl rfl)

/-- A whole round returns and keeps it, and so do its first turns. -/
theorem round {outcome : Outcome Unit Unit Stats (Except Error Nat)}
    (h : Echoes size settled noted w) (hround : Round handlers n noted w turns outcome) :
    (∀ t ∈ turns, Echoes size settled noted t.before)
      ∧ ∃ b, outcome = .ok (.ok n) b ∧ Echoes size settled noted b :=
  hround.keeps (fun _ ready ha => ha.noting ready) (fun _ ha => ha.callListener) calls h

/-- A wait, refused or not, keeps it. -/
theorem wait {s : Server Unit Unit} {h' : Host} {answer : Except Error Nat}
    (h : Echoes size settled noted a) (hwait : a.server.wait a.host = (answer, s, h')) :
    Echoes size settled noted { a with server := s, host := h' } := by
  obtain ⟨polled, rfl, _, hkernel⟩ := Server.wait_cases hwait
  exact h.quiet rfl rfl rfl (.of_files (by rw [hkernel]) (by rw [hkernel]))

/-- What a wait notes is true of the streams that it looked at. -/
theorem note {s : Server Unit Unit} {h' : Host} (h : Echoes size settled [] a)
    (hwait : a.server.wait a.host = (.ok n, s, h'))
    (hnoted : List.Forall₂ s.Notes s.readyEntries noted) :
    Echoes size settled noted { a with server := s, host := h' } := by
  have hwoken := h.wait hwait
  obtain ⟨polled, hset, rfl⟩ := Server.wait_ok hwait
  refine ⟨hwoken.balanced, hwoken.bufferSize, hwoken.live, fun r hr => ?_⟩
  obtain ⟨e, he, c, hget, rfl⟩ := Server.notes_mem hnoted r hr
  refine ⟨(hwoken.live e.fd c hget).2.1, fun _ t _ _ ht hclosed => ?_⟩
  -- a hangup among the results is one in the condition of the stream, hence a fault
  have hmem : e ∈ polled.toList := List.mem_of_mem_drop (List.mem_filter.mp he).1
  have hresult : (a.host.kernel.readiness e.fd e.interest).isClosed = true :=
    PollSet.wait_result hset hmem ▸ hclosed
  obtain ⟨_, _, _, hkernel⟩ := Server.wait_cases hwait
  have hstream : a.host.kernel.stream? e.fd = some t := hkernel ▸ ht
  exact t.fault_of_closed (Kernel.closed_of_readiness hstream hresult)

/-- And so does a round from the wait on. -/
theorem poll (h : Echoes size settled [] a) (hreach : Reachable a) :
    ∃ answer b, Server.poll handlers a = .ok answer b ∧ Echoes size settled [] b := by
  cases hbound : a.server.isBound with
  | false => exact ⟨_, a, Server.poll_of_unbound hbound, h⟩
  | true =>
      rcases hwait : a.server.wait a.host with ⟨answer, s, h'⟩
      obtain hwaited | ⟨n, noted, turns, rfl, _, hnoted, hround⟩ :=
        hreach.poll_cases hbound handlers_operate hwait
      · exact ⟨_, _, hwaited, h.wait hwait⟩
      · obtain ⟨_, b, hok, hb⟩ := (h.note hwait hnoted).round hround
        exact ⟨_, b, hok, hb.of_subset (List.nil_subset _)⟩

/-! ## Between rounds -/

theorem cleanup (h : Echoes size settled [] a) :
    Echoes size settled [] (after (run fun s h => ((), s.cleanup h)) a) := by
  have hclosed : ∀ (entries : List (Descriptor × Connection Unit))
      (host : Host), Balanced settled host.kernel →
      Balanced settled (entries.foldl (fun h (_, c) => h.close c.fd) host).kernel := by
    intro entries
    induction entries with
    | nil => exact fun _ hbalanced => hbalanced
    | cons entry rest ih => exact fun host hbalanced => ih _ (hbalanced.close entry.2.fd)
  have hall := hclosed a.server.connections.entries a.host h.balanced
  refine h.of_stays ?_ ?_ (Nat.le_of_eq ?_) ?_
  · show Balanced settled (a.server.cleanup a.host).2.kernel
    rw [Server.cleanup]
    cases a.server.listener with
    | none => exact hall
    | some l => exact hall.close l.fd
  · show (a.server.cleanup a.host).1.config.bufferSize = _
    rw [Server.cleanup_server]
  · show a.server.nextId = (a.server.cleanup a.host).1.nextId
    rw [Server.cleanup_server]
  · -- no connection is left that would have to account for its stream
    intro fd c hget
    have hempty : (a.server.cleanup a.host).1.connections.get? fd = some c := hget
    rw [Server.cleanup_server] at hempty
    cases hempty

/-- An act of a client keeps it: what was taken and handed over is as it was. -/
theorem client (h : Echoes size settled [] a) {i : Nat} {f : Stream → Stream}
    (hacts : ∀ s, a.host.kernel.streams[i]? = some s → s.Acts (f s)) :
    Echoes size settled []
      { a with host := { a.host with kernel := a.host.kernel.onStream i f } } := by
  cases hstream : a.host.kernel.streams[i]? with
  | none =>
      rw [Kernel.onStream_of_none f hstream]
      exact h
  | some s =>
      rw [Kernel.onStream_eq_setStream f hstream]
      exact h.acts hstream (hacts s hstream)

/-- Whatever happens between rounds keeps it. -/
theorem happens (h : Echoes size settled [] a) (hreach : Reachable a) (hnext : Happens a b) :
    Echoes size settled [] b := by
  cases hnext with
  | connect address =>
      obtain hsame | ⟨listener, hconnects⟩ := a.host.kernel.connect_cases address
      · rw [hsame]
        exact h
      · exact h.connect hconnects
  | client hacts => exact h.client hacts
  | host hfiles hstreams => exact h.quiet rfl rfl rfl (.of_files hfiles hstreams)
  | timeout timeout => exact h.quiet rfl rfl rfl (.of_files rfl rfl)
  | round =>
      obtain ⟨answer, b, hok, hb⟩ := h.poll hreach
      rwa [after_eq_of_ok hok]
  | cleanup => exact h.cleanup

/-- By induction it holds ever after, in systems that a program can have. -/
theorem later (h : Echoes size settled [] a) (hreach : Reachable a) (hlater : Later a b) :
    Reachable b ∧ Echoes size settled [] b := by
  induction hlater with
  | refl => exact ⟨hreach, h⟩
  | tail _ hlast ih => exact ⟨ih.1.of_reaches hlast.reaches, ih.2.happens ih.1 hlast⟩

end Echoes

/-! ## The whole run -/

/-- On a system with a listener only there is nothing to account for. -/
theorem balanced_of_holds {k : Kernel} {fd : Descriptor} {bound : Address}
    (h : k.Holds fd (.listener bound [])) :
    Balanced [] k := by
  obtain ⟨nonblocking, hfiles⟩ := h.files
  have hfile : k.file? fd = some ⟨.listener bound [], nonblocking⟩ := by
    rw [Kernel.file?, hfiles]
    exact List.lookup_cons_self
  -- the listener has an empty queue, and there is no other file
  have hbare : ∀ other, k.references other = [] := by
    intro other
    by_cases hfd : other = fd
    · rw [hfd]
      exact Kernel.references_of_listener hfile
    · refine Kernel.references_of_none ?_
      rw [Kernel.file?, hfiles, List.lookup_cons, beq_eq_false_iff_ne.mpr hfd]
      rfl
  refine Kernel.balanced_of_bare ⟨?_, ?_, ?_, ?_⟩ h.streams hbare
  · rw [Kernel.openDescriptors, hfiles]
    exact List.nodup_singleton fd
  · intro other
    rw [hbare]
    exact List.nodup_nil
  · intro one other i hi
    rw [hbare] at hi
    cases hi
  · intro other i hi
    rw [hbare] at hi
    cases hi

/-- The invariant holds in every run of an echo server. -/
theorem Running.echoes (h : Running size a) : Echoes size [] [] a := by
  -- on the run, in which the accounts of the start are empty
  induction h with
  | @start address config h h' s hsize hfiles hstreams hbind =>
      obtain ⟨hconfig, fd, bound, hholds⟩ := Server.bind_holds hstreams hfiles hbind
      have hconnections := (Server.bind_fresh hbind).connections
      refine ⟨balanced_of_holds hholds, hconfig ▸ hsize, ?_, fun _ hr => by cases hr⟩
      intro fd c hget
      have hempty : s.connections.get? fd = some c := hget
      rw [hconnections] at hempty
      cases hempty
  | next h hnext ih => exact ih.happens h.reachable hnext

/-- In a round of a running server each connection that is ready has its turn. -/
theorem Running.exists_turns (h : Running size a) {s : Server Unit Unit} {h' : Host}
    (hbound : a.server.isBound = true) (hwait : a.server.wait a.host = (.ok n, s, h'))
    (hn : 0 < n) :
    ∃ turns, RoundTurns a turns ∧ turns.map (fun t => t.ready.fd) = s.readyEntries.map
      PollEntry.fd := by
  obtain ⟨noted, turns, hnoted, hround⟩ := h.reachable.rounds hbound handlers_operate hwait hn
  obtain ⟨_, b, hok, _⟩ := (h.echoes.note hwait hnoted).round hround
  refine ⟨turns, ⟨n, s, h', noted, hbound, hwait, hn, hnoted, hround⟩, ?_⟩
  rw [← Server.notes_fd hnoted, ← (hround.turns_ready.2 _ b hok).2, List.map_map]
  rfl

end EventLoop.Echo
