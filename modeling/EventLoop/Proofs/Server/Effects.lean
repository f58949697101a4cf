import EventLoop.Server.Basic
import EventLoop.Proofs.DescriptorTable.Lookup
import EventLoop.Proofs.Kernel.Holders
import EventLoop.Proofs.PollSet.View
import EventLoop.Proofs.RingBuffer.Operations

/-! # What the operations of a server do

    Accepting is the operation with most ways to fail: the call of the system,
    the descriptor that will not be kept from waiting, memory for the buffers,
    a full readiness set. `accept_admits` says that in all of them the server is
    as before and what was opened is closed again, and that a success puts one
    connection with the next id and empty buffers under a descriptor that was not
    open before; `accept_cases` is what this means for the open descriptors.

    * Of a connection in the table three things stay: the descriptor it is kept
      under, its id and its socket. They are its `Seat`; the seats of a server
      in the order of acceptance are its `roster`.
    * A listener that is made opens one descriptor, and `bind_cases` says what a new
      server looks like. -/

namespace EventLoop

/-- What stays of a connection while it is in the table. -/
structure Seat where
  key : Descriptor
  id : Nat
  socket : Socket
  deriving DecidableEq, Repr

namespace Server

variable {L C : Type}

/-- The seat of an entry of the table. -/
def seat (entry : Descriptor × Connection C) : Seat := ⟨entry.1, entry.2.id, entry.2.socket⟩

/-- The seats of the connections in the order in which they were accepted. -/
def roster (s : Server L C) : List Seat := s.connections.entries.map seat

variable {s : Server L C}

/-- The keys of the table are those of its seats. -/
theorem keys_eq_roster (s : Server L C) : s.connections.keys = s.roster.map Seat.key := by
  rw [roster, List.map_map]
  rfl

/-- With distinct descriptors a seat is taken by the connection that is found
    under its descriptor. -/
theorem mem_roster_iff (hkeys : s.connections.keys.Nodup) {x : Seat} :
    x ∈ s.roster ↔ ∃ c, s.connections.get? x.key = some c ∧ c.id = x.id ∧ c.socket = x.socket := by
  rw [roster, List.mem_map]
  constructor
  · rintro ⟨⟨key, c⟩, hmem, rfl⟩
    exact ⟨c, DescriptorTable.get?_of_mem hkeys hmem, rfl, rfl⟩
  · rintro ⟨c, hget, hid, hsocket⟩
    refine ⟨(x.key, c), DescriptorTable.mem_of_get? hget, ?_⟩
    rw [seat, hid, hsocket]

/-- Every connection that is found has its seat. -/
theorem mem_roster_of_get? {fd : Descriptor} {c : Connection C}
    (h : s.connections.get? fd = some c) :
    ⟨fd, c.id, c.socket⟩ ∈ s.roster :=
  List.mem_map.mpr ⟨(fd, c), DescriptorTable.mem_of_get? h, rfl⟩

/-- Who leaves gives up one seat, and the others keep theirs. -/
theorem roster_erase (t : DescriptorTable (Connection C)) (fd : Descriptor) :
    (t.erase fd).entries.map seat = (t.entries.map seat).filter (·.key ≠ fd) := by
  rw [DescriptorTable.erase, List.filter_map]
  rfl

/-- A change of a connection that keeps id and socket keeps the seat. -/
theorem roster_onConnection {fd : Descriptor} {f : Connection C → Connection C}
    (hkeys : s.connections.keys.Nodup)
    (hf : ∀ c, s.connections.get? fd = some c → (f c).id = c.id ∧ (f c).socket = c.socket) :
    (s.onConnection fd f).roster = s.roster := by
  show (s.connections.entries.map _).map seat = s.connections.entries.map seat
  rw [List.map_map]
  refine List.map_congr_left ?_
  rintro ⟨key, c⟩ hmem
  show seat (if key = fd then (key, f c) else (key, c)) = seat (key, c)
  by_cases hkey : key = fd
  · subst hkey
    obtain ⟨hid, hsocket⟩ := hf c (DescriptorTable.get?_of_mem hkeys hmem)
    rw [if_pos rfl, seat, seat, hid, hsocket]
  · rw [if_neg hkey]

end Server

/-! ## Accepting -/

/-- A new connection has the given id, socket and handler and two empty buffers;
    without memory for them the socket is closed. -/
theorem Connection.create_cases {C : Type} (id : Nat) (socket : Socket) (peer address : Address)
    (size : Nat) (handler : C) (h : Host) :
    (∃ e h', Connection.create id socket peer address size handler h = (.error e, h')
        ∧ h'.kernel = h.kernel.close socket.fd)
      ∨ ∃ h', Connection.create id socket peer address size handler h
          = (.ok ⟨id, socket, peer, address, .blank size, .blank size, handler, 0, none⟩, h')
        ∧ size.isPowerOfTwo ∧ h'.kernel = h.kernel := by
  rw [create]
  rcases hfirst : RingBuffer.create size h.memory with ⟨e | input, memory⟩
  · exact .inl ⟨_, _, rfl, rfl⟩
  · rcases hsecond : RingBuffer.create size memory with ⟨e | output, memory'⟩
    · simp only [hsecond]
      exact .inl ⟨_, _, rfl, rfl⟩
    · obtain ⟨hpow, rfl⟩ := RingBuffer.create_ok hfirst
      obtain ⟨_, rfl⟩ := RingBuffer.create_ok hsecond
      simp only [hsecond]
      exact .inr ⟨_, rfl, hpow, rfl⟩

/-- A failing step on a descriptor that was just opened closes it. -/
theorem Listener.guarded_cases {α : Type} (fd : Descriptor) (step : Except Error α × Host) :
    (∃ e, guarded fd step = (.error e, step.2.close fd))
    ∨ ∃ a, guarded fd step = (.ok a, step.2) := by
  obtain ⟨r, h⟩ := step
  cases r with
  | ok a => exact .inr ⟨a, rfl⟩
  | error e => exact .inl ⟨e, rfl⟩

namespace Server

variable {L C : Type} {s : Server L C}

/-- A connection as it is when it is admitted. -/
def newcomer (s : Server L C) (fd : Descriptor) (peer : Address) (handler : C) : Connection C :=
  ⟨s.nextId, ⟨fd⟩, peer, s.localAddress, .blank s.config.bufferSize, .blank s.config.bufferSize,
    handler, 0,
    none⟩

/-- What an admission does to the server: the set watches the new descriptor, the
    table has one more connection, with the next id and under the descriptor of
    its socket. -/
structure Admits (s : Server L C) (fd : Descriptor) (handler : C) (s' : Server L C) : Prop where
  polled : s.polled.add fd .connection = .ok s'.polled
  entries : ∃ peer, s'.connections.entries = s.connections.entries
    ++ [(fd, s.newcomer fd peer handler)]
  size : s.config.bufferSize.isPowerOfTwo
  config : s'.config = s.config
  nextId : s'.nextId = s.nextId + 1
  listener : s'.listener = s.listener
  ready : s'.ready = s.ready

/-- Who is admitted sits last, with the next id. -/
theorem Admits.roster {fd : Descriptor} {handler : C} {s' : Server L C}
    (h : s.Admits fd handler s') :
    s'.roster = s.roster ++ [⟨fd, s.nextId, ⟨fd⟩⟩] := by
  obtain ⟨peer, hentries⟩ := h.entries
  rw [Server.roster, hentries, List.map_append]
  rfl

/-- Whoever is found afterwards was there before, or is the newcomer. -/
theorem Admits.get?_cases {fd other : Descriptor} {handler : C} {s' : Server L C} {c : Connection C}
    (h : s.Admits fd handler s') (hget : s'.connections.get? other = some c) :
    s.connections.get? other = some c
      ∨ s.connections.get? other = none ∧ other = fd ∧ ∃ peer, c = s.newcomer fd peer handler := by
  obtain ⟨peer, hentries⟩ := h.entries
  have hlookup : (s.connections.get? other).or ([(fd, s.newcomer fd peer handler)].lookup other)
      = some c := by
    rw [DescriptorTable.get?, ← List.lookup_append, ← hentries]
    exact hget
  cases hold : s.connections.get? other with
  | some old =>
      rw [hold] at hlookup
      exact .inl hlookup
  | none =>
      rw [hold, Option.none_or, List.lookup_cons] at hlookup
      by_cases hsame : other = fd
      · rw [beq_iff_eq.mpr hsame] at hlookup
        exact .inr ⟨rfl, hsame, peer, (Option.some.inj hlookup).symm⟩
      · rw [beq_eq_false_iff_ne.mpr hsame] at hlookup
        cases hlookup

/-- Registering adds a connection to table and set or to neither; in the latter
    case the socket is closed. -/
theorem register_cases (s : Server L C) (fd : Descriptor) (peer : Address)
    (handler : C) (h : Host) :
    (∃ e h', s.register ⟨fd⟩ peer handler h = (.error e, s, h') ∧ h'.kernel = h.kernel.close fd)
      ∨ ∃ s' h', s.register ⟨fd⟩ peer handler h = (.ok fd, s', h')
        ∧ s.connections.contains fd = false ∧ s.Admits fd handler s' ∧ h'.kernel = h.kernel := by
  rw [register]
  by_cases hcontains : s.connections.contains fd = true
  · exact .inl ⟨_, _, if_pos hcontains, rfl⟩
  · rw [if_neg hcontains]
    rw [Bool.not_eq_true] at hcontains
    obtain ⟨e, h₁, hcreate, hkernel⟩ | ⟨h₁, hcreate, hpow, hkernel⟩ :=
      Connection.create_cases s.nextId ⟨fd⟩ peer s.localAddress s.config.bufferSize handler h
    · simp only [hcreate]
      exact .inl ⟨_, _, rfl, hkernel⟩
    · cases hadd : s.polled.add fd .connection with
      | error e =>
          simp only [hcreate]
          exact .inl ⟨_, _, rfl, congrArg (·.close fd) hkernel⟩
      | ok polled =>
          -- the descriptor was looked up before, so that the table cannot refuse it
          simp only [hcreate, DescriptorTable.insert_of_not_contains _ hcontains]
          exact .inr ⟨_, _, rfl, hcontains, ⟨hadd, ⟨peer, rfl⟩, hpow, rfl, rfl, rfl, rfl⟩, hkernel⟩

/-- What the call that takes a client from the listener can come to: a descriptor and
    a system with a given property, or nothing. -/
def Takes (take : Except Error (Socket × Address) × Host) (P : Descriptor → Kernel → Prop)
    (k : Kernel) : Prop :=
  (∃ fd peer h, take = (.ok (⟨fd⟩, peer), h) ∧ P fd h.kernel) ∨ ∃ e h, take = (.error e, h)
  ∧ h.kernel = k

/-- Whatever the call, a client is admitted under its descriptor, or the server is as
    before and the descriptor, if there was one, is closed again. -/
theorem acceptBy_cases {take : Listener → Host → Except Error (Socket × Address) × Host} {h : Host}
    {P : Listener → Descriptor → Kernel → Prop} (htake : ∀ l, Takes (take l h) (P l) h.kernel)
    (s : Server L C) (handler : C) :
    (∃ e h', s.acceptBy take handler h = (.error e, s, h')
        ∧ (h'.kernel = h.kernel
          ∨ ∃ l fd k, s.listener = some l ∧ P l fd k
            ∧ h'.kernel = (k.setNonblocking fd).2.close fd))
      ∨ ∃ l fd k s' h', s.acceptBy take handler h = (.ok fd, s', h')
        ∧ s.listener = some l ∧ P l fd k
        ∧ s.connections.contains fd = false ∧ s.Admits fd handler s'
        ∧ h'.kernel = (k.setNonblocking fd).2 := by
  rw [acceptBy]
  cases s.listener with
  | none => exact .inl ⟨_, _, rfl, .inl rfl⟩
  | some listener =>
      dsimp only
      obtain ⟨fd, peer, h₁, htaken, htook⟩ | ⟨e, h₁, htaken, hkernel⟩ := htake listener
      · have hcalled : (h₁.setNonblocking fd).2.kernel = (h₁.kernel.setNonblocking fd).2 :=
          Host.kernel_setNonblocking _ _
        simp only [htaken]
        -- from here on every failure closes the descriptor again
        obtain ⟨e, hguarded⟩ | ⟨u, hguarded⟩ := Listener.guarded_cases fd (h₁.setNonblocking fd)
        · simp only [hguarded]
          exact .inl ⟨_, _, rfl, .inr ⟨listener, fd, _, rfl, htook, congrArg (·.close fd) hcalled⟩⟩
        · simp only [hguarded]
          obtain ⟨e, h', hregister, hclosed⟩ | ⟨s', h', hregister, hnew, hadmits, hkept⟩ :=
            register_cases s fd peer handler (h₁.setNonblocking fd).2
          · rw [hregister]
            exact .inl ⟨_, _, rfl, .inr ⟨listener, fd, _, rfl, htook, by rw [hclosed, hcalled]⟩⟩
          · rw [hregister]
            exact .inr ⟨listener, fd, _, s', h', rfl, rfl, htook, hnew, hadmits,
              hkept.trans hcalled⟩
      · simp only [htaken]
        refine .inl ⟨_, _, rfl, .inl ?_⟩
        by_cases hwait : e.isWouldBlock = true
        · rw [if_pos hwait]
          exact hkernel
        · rw [if_neg hwait]
          exact hkernel

end Server

/-- Taking a client under a given number opens that number or nothing. -/
theorem Listener.acceptAt_takes (l : Listener) (fd : Descriptor) (h : Host) :
    Server.Takes (l.acceptAt fd h)
      (fun other k => other = fd ∧ k.openDescriptors = fd :: h.openDescriptors)
      h.kernel := by
  rw [acceptAt, Host.call]
  obtain ⟨peer, k, haccept, hopen⟩ | ⟨e, haccept⟩ := h.kernel.acceptAt_cases l.fd fd
  · rw [haccept]
    exact .inl ⟨fd, peer, _, rfl, rfl, hopen⟩
  · rw [haccept]
    exact .inr ⟨_, _, rfl, rfl⟩

/-- The system picks a number that was not open. -/
theorem Listener.accept_takes (l : Listener) (h : Host) :
    Server.Takes (l.accept h) (fun fd k => ∃ first, h.kernel.Accepts l.fd fd first k) h.kernel := by
  rw [accept, Host.call]
  obtain ⟨first, peer, k, haccept, haccepts⟩ | ⟨e, haccept⟩ := h.kernel.accept_accepts l.fd
  · rw [haccept]
    exact .inl ⟨_, peer, _, rfl, first, haccepts⟩
  · rw [haccept]
    exact .inr ⟨_, _, rfl, rfl⟩

namespace Server

variable {L C : Type} {s : Server L C}

/-- Without a listener nothing happens. -/
theorem accept_of_unbound (hl : s.listener = none) (handler : C) (h : Host) :
    s.accept handler h = (.error .notBound, s, h) := by
  rw [accept, acceptBy, hl]

/-- Accepting admits the client whose stream came first in the queue, or leaves the
    server as it was; a client that was taken from the queue is then turned away. -/
theorem accept_admits (s : Server L C) (handler : C) (h : Host) :
    (∃ e h', s.accept handler h = (.error e, s, h')
        ∧ (h'.kernel = h.kernel ∨ ∃ l fd first k,
          s.listener = some l ∧ h.kernel.Accepts l.fd fd first k
            ∧ h'.kernel = (k.setNonblocking fd).2.close fd))
      ∨ ∃ l fd first k s' h', s.accept handler h = (.ok fd, s', h') ∧ s.listener = some l
        ∧ h.kernel.Accepts l.fd fd first k ∧ s.Admits fd handler s'
        ∧ h'.kernel = (k.setNonblocking fd).2 := by
  rw [accept]
  obtain ⟨e, h', haccept, hkernel | ⟨l, fd, k, hl, ⟨first, haccepts⟩, hkernel⟩⟩
    | ⟨l, fd, k, s', h', haccept, hl, ⟨first, haccepts⟩, _, hadmits, hkernel⟩ :=
    acceptBy_cases (fun l => l.accept_takes h) s handler
  · exact .inl ⟨e, h', haccept, .inl hkernel⟩
  · exact .inl ⟨e, h', haccept, .inr ⟨l, fd, first, k, hl, haccepts, hkernel⟩⟩
  · exact .inr ⟨l, fd, first, k, s', h', haccept, hl, haccepts, hadmits, hkernel⟩

/-- What it means that somebody was accepted. -/
theorem admits_of_accept {handler : C} {h h' : Host} {fd : Descriptor} {s' : Server L C}
    (haccept : s.accept handler h = (.ok fd, s', h')) : ∃ l first k, s.listener = some l
      ∧ h.kernel.Accepts l.fd fd first k ∧ s.Admits fd handler s'
      ∧ h'.kernel = (k.setNonblocking fd).2 := by
  obtain ⟨_, _, hresult, _⟩ | ⟨l, _, first, k, _, _, hresult, hl, haccepts, hadmits, hkernel⟩ :=
    s.accept_admits handler h
  · cases hresult.symm.trans haccept
  · cases hresult.symm.trans haccept
    exact ⟨l, first, k, hl, haccepts, hadmits, hkernel⟩

/-- And that nobody was. -/
theorem kernel_of_refused {handler : C} {h h' : Host} {e : Error} {s' : Server L C}
    (haccept : s.accept handler h = (.error e, s', h')) : h'.kernel = h.kernel
      ∨ ∃ l fd first k, s.listener = some l ∧ h.kernel.Accepts l.fd fd first k
        ∧ h'.kernel = (k.setNonblocking fd).2.close fd := by
  obtain ⟨_, _, hresult, hkernel⟩ | ⟨_, _, _, _, _, _, hresult, _⟩ := s.accept_admits handler h
  · cases hresult.symm.trans haccept
    exact hkernel
  · cases hresult.symm.trans haccept

/-- Accepting admits a connection under a descriptor that was not open, or leaves
    the server as it was and nothing more open than before. -/
theorem accept_cases (s : Server L C) (handler : C) (h : Host) :
    (∃ e h', s.accept handler h = (.error e, s, h') ∧ h'.openDescriptors = h.openDescriptors)
      ∨ ∃ fd s' h', s.accept handler h = (.ok fd, s', h') ∧ s.listener.isSome = true
        ∧ fd ∉ h.openDescriptors ∧ s.Admits fd handler s'
        ∧ h'.openDescriptors = fd :: h.openDescriptors := by
  obtain ⟨e, h', haccept, hkernel | ⟨_, fd, _, k, _, haccepts, hkernel⟩⟩
    | ⟨_, fd, _, k, s', h', haccept, hl, haccepts, hadmits, hkernel⟩ := s.accept_admits handler h
  · exact .inl ⟨e, h', haccept, congrArg Kernel.openDescriptors hkernel⟩
  · refine .inl ⟨e, h', haccept, ?_⟩
    rw [Host.openDescriptors, hkernel, Kernel.openDescriptors_close,
      Kernel.openDescriptors_setNonblocking, haccepts.openDescriptors, List.erase_cons_head,
      Host.openDescriptors]
  · refine .inr ⟨fd, s', h', haccept, Option.isSome_of_eq_some hl, haccepts.fresh, hadmits, ?_⟩
    rw [Host.openDescriptors, hkernel, Kernel.openDescriptors_setNonblocking,
      haccepts.openDescriptors, Host.openDescriptors]

/-- Under the descriptor of a live connection nobody is accepted. -/
theorem acceptAt_refused {fd : Descriptor} (hcontains : s.connections.contains fd = true)
    (handler : C) (h : Host) : ∃ e h', s.acceptAt fd handler h = (.error e, s, h')
      ∧ h'.openDescriptors = h.openDescriptors := by
  rw [acceptAt, if_pos hcontains]
  obtain ⟨e, h', haccept, hkernel | ⟨_, _, k, _, ⟨rfl, hopen⟩, hkernel⟩⟩
    | ⟨_, _, _, _, _, _, _, ⟨rfl, _⟩, hnew, _⟩ :=
          acceptBy_cases (fun l => l.acceptAt_takes fd h) s handler
  · exact ⟨e, h', haccept, congrArg Kernel.openDescriptors hkernel⟩
  · refine ⟨e, h', haccept, ?_⟩
    rw [Host.openDescriptors, hkernel, Kernel.openDescriptors_close,
      Kernel.openDescriptors_setNonblocking, hopen, List.erase_cons_head]
  · cases hcontains.symm.trans hnew

/-! ## Disconnecting and cleaning up -/

/-- A connection that is there is taken out of table and set, and its descriptor closed. -/
theorem disconnect_of_live {s : Server L C} {fd : Descriptor} {c : Connection C}
    (hget : s.connections.get? fd = some c) (h : Host) : s.disconnect fd h = (true,
      { s with connections := s.connections.erase fd, polled := (s.polled.remove fd).2 },
      (h.log .debug s!"disconnected fd {fd} ({c.peer.text})").close c.fd) := by
  rw [disconnect, hget]

/-- Disconnecting takes a connection out of table and set and closes its socket. -/
theorem disconnect_cases (s : Server L C) (fd : Descriptor) (h : Host) :
    (s.connections.get? fd = none ∧ ∃ h', s.disconnect fd h = (false, s, h') ∧ h'.kernel = h.kernel)
      ∨ ∃ c, s.connections.get? fd = some c
        ∧ ∃ h', s.disconnect fd h = (true,
            { s with connections := s.connections.erase fd, polled := (s.polled.remove fd).2 }, h')
        ∧ h'.kernel = h.kernel.close c.fd := by
  cases hget : s.connections.get? fd with
  | none =>
      rw [disconnect, hget]
      exact .inl ⟨rfl, _, rfl, rfl⟩
  | some c => exact .inr ⟨c, rfl, _, disconnect_of_live hget h, rfl⟩

/-- A change of interest happens under live descriptors only, and changes the
    set only. -/
theorem setInterest_cases {fd : Descriptor} {interest : EventMask} {s' : Server L C}
    (h : s.setInterest fd interest = .ok s') :
    fd ∈ s.connections.keys ∧ ∃ polled, s.polled.add fd interest = .ok polled
      ∧ s' = { s with polled := polled } := by
  rw [setInterest] at h
  by_cases hcontains : s.connections.contains fd = true
  · rw [if_pos hcontains] at h
    refine ⟨DescriptorTable.contains_eq_true_iff.mp hcontains, ?_⟩
    cases hadd : s.polled.add fd interest with
    | error e =>
        rw [hadd] at h
        cases h
    | ok polled =>
        rw [hadd] at h
        exact ⟨polled, rfl, (Except.ok.inj h).symm⟩
  · rw [if_neg hcontains] at h
    cases h

/-- Cleaning up leaves neither listener nor connections nor anything watched. -/
theorem cleanup_server (s : Server L C) (h : Host) :
    (s.cleanup h).1 =
      { s with connections := .empty, polled := s.polled.clear, listener := none } := by
  rw [cleanup]
  cases s.listener <;> rfl

/-! ## Binding -/

/-- A new server watches its listener, which is open, and nothing else. -/
structure Fresh (s : Server L C) (h : Host) : Prop where
  wellFormed : s.polled.WellFormed
  listener : ∃ l, s.listener = some l ∧ s.polled.toList = [⟨l.fd, .listener, .empty⟩]
    ∧ l.fd ∈ h.openDescriptors
  connections : s.connections = .empty
  nextId : s.nextId = 1

end Server

/-- Binding a socket opens and closes nothing. -/
theorem Kernel.openDescriptors_bind (k : Kernel) (fd : Descriptor) (address : Address) :
    (k.bind fd address).2.openDescriptors = k.openDescriptors := by
  rw [bind]
  split
  · rfl
  · split
    · rfl
    · dsimp only
      rw [openDescriptors_setFile]
      split <;> rfl

theorem Kernel.openDescriptors_listen (k : Kernel) (fd : Descriptor) :
    (k.listen fd).2.openDescriptors = k.openDescriptors := by
  rw [listen]
  split
  · exact openDescriptors_setFile _ _ _
  · rfl
  · rfl

/-- A failing step on a descriptor closes what was opened with it. -/
theorem Listener.guarded_open {α : Type} {fd : Descriptor} {opened : List Descriptor}
    {step : Except Error α × Host} (hopen : step.2.openDescriptors = fd :: opened) :
    (∃ e h, guarded fd step = (.error e, h) ∧ h.openDescriptors = opened)
      ∨ ∃ a h, guarded fd step = (.ok a, h) ∧ h.openDescriptors = fd :: opened := by
  obtain ⟨e, hguarded⟩ | ⟨a, hguarded⟩ := guarded_cases fd step
  · refine .inl ⟨e, _, hguarded, ?_⟩
    rw [Host.openDescriptors_close, hopen, List.erase_cons_head]
  · exact .inr ⟨a, _, hguarded, hopen⟩

/-- A call that opens and closes nothing. -/
theorem Host.openDescriptors_of_call {α : Type} {name : String}
    {run : Kernel → Except Errno α × Kernel}
    {h h' : Host} {r : Except Error α} (hcall : h.call name run = (r, h'))
    (hkept : (run h.kernel).2.openDescriptors = h.kernel.openDescriptors) :
    h'.openDescriptors = h.openDescriptors := by
  have hopen := h.openDescriptors_call name run
  rw [hcall] at hopen
  exact hopen.trans hkept

theorem Kernel.reuseAddress_snd (k : Kernel) (fd : Descriptor) : (k.reuseAddress fd).2 = k := by
  rw [reuseAddress]
  split <;> rfl

theorem Kernel.ownAddress_snd (k : Kernel) (fd : Descriptor) : (k.ownAddress fd).2 = k := by
  rw [ownAddress]
  split <;> rfl

/-- What is done to a new socket opens nothing more, whichever of the calls fails. -/
theorem Listener.openDescriptors_prepare (fd : Descriptor) (address : Address) (h : Host) :
    (prepare fd address h).2.openDescriptors = h.openDescriptors := by
  rw [prepare]
  -- call after call, with the failure of each dealt with where it happens
  rcases hreuse : h.call "setsockopt(SO_REUSEADDR)" (·.reuseAddress fd) with ⟨_ | _, h₁⟩
  all_goals
    have hopen₁ := Host.openDescriptors_of_call hreuse (congrArg _ (Kernel.reuseAddress_snd _ _))
    dsimp only
  · exact hopen₁
  rcases hbind : h₁.call "bind" (·.bind fd address) with ⟨_ | _, h₂⟩
  all_goals
    have hopen₂ := Host.openDescriptors_of_call hbind (Kernel.openDescriptors_bind _ _ _)
    dsimp only
  · exact hopen₂.trans hopen₁
  rcases hlisten : h₂.call "listen" (·.listen fd) with ⟨_ | _, h₃⟩
  all_goals
    have hopen₃ := Host.openDescriptors_of_call hlisten (Kernel.openDescriptors_listen _ _)
    dsimp only
  · exact (hopen₃.trans hopen₂).trans hopen₁
  rcases hset : h₃.setNonblocking fd with ⟨_ | _, h₄⟩
  all_goals
    have hopen₄ := h₃.openDescriptors_setNonblocking fd
    rw [hset] at hopen₄
    dsimp only
  · exact ((hopen₄.trans hopen₃).trans hopen₂).trans hopen₁
  rw [Host.openDescriptors_call, Kernel.ownAddress_snd]
  exact ((hopen₄.trans hopen₃).trans hopen₂).trans hopen₁

/-- A listener opens the one descriptor that it holds, or nothing. -/
theorem Listener.bindAddress_cases (address : Address) (h : Host) :
    (∃ e h', bindAddress address h = (.error e, h') ∧ h'.openDescriptors = h.openDescriptors)
      ∨ ∃ l h', bindAddress address h = (.ok l, h')
        ∧ h'.openDescriptors = l.fd :: h.openDescriptors := by
  rw [bindAddress, Host.call, Kernel.socket, Kernel.openFile]
  by_cases hadmit : h.kernel.admits h.kernel.lowestFree = true
  · simp only [if_pos hadmit]
    generalize h.kernel.lowestFree = fd
    -- the new descriptor stays open, or one of the calls on it fails and it is closed
    obtain ⟨e, h₁, hguarded, hopen⟩ | ⟨_, h₁, hguarded, hopen⟩ :=
      guarded_open (openDescriptors_prepare fd address
        { h with kernel := h.kernel.openAt fd ⟨.socket none, false⟩ })
    · simp only [hguarded]
      exact .inl ⟨e, h₁, rfl, hopen⟩
    · simp only [hguarded]
      exact .inr ⟨_, _, rfl, hopen⟩
  · simp only [if_neg hadmit]
    exact .inl ⟨_, _, rfl, rfl⟩

/-- A listener that cannot be bound leaves no descriptor open; one that is bound leaves its
    own. -/
theorem Listener.bind_cases (address : String) (h : Host) :
    (∃ e h', bind address h = (.error e, h') ∧ h'.openDescriptors = h.openDescriptors)
      ∨ ∃ l h', bind address h = (.ok l, h') ∧ h'.openDescriptors = l.fd :: h.openDescriptors := by
  rw [bind]
  cases Address.parse address with
  | error e => exact .inl ⟨e, h, rfl, rfl⟩
  | ok addr => exact bindAddress_cases addr h

/-- Whichever step of binding failed, the descriptors that are open are those from before. -/
theorem Listener.openDescriptors_unbound {address : String} {e : Error} {h h' : Host}
    (hbind : Listener.bind address h = (.error e, h')) :
    h'.openDescriptors = h.openDescriptors := by
  obtain ⟨_, _, herror, hopen⟩ | ⟨_, _, hok, _⟩ := Listener.bind_cases address h
  · cases hbind.symm.trans herror
    exact hopen
  · cases hbind.symm.trans hok

/-- A bound listener has opened one descriptor, its own. -/
theorem Listener.openDescriptors_bound {address : String} {l : Listener} {h h' : Host}
    (hbind : Listener.bind address h = (.ok l, h')) :
    h'.openDescriptors = l.fd :: h.openDescriptors := by
  obtain ⟨_, _, herror, _⟩ | ⟨_, _, hok, hopen⟩ := Listener.bind_cases address h
  · cases hbind.symm.trans herror
  · cases hbind.symm.trans hok
    exact hopen

/-- The ways in which binding ends, with what was made until then. -/
inductive Server.Binds {L C : Type} (address : String) (handler : L) (config : Config) (h : Host) :
    Except Error (Server L C) × Host → Prop
  | invalid {e : Error} (hinvalid : config.validate = .error e) :
      Binds address handler config h (.error e, h)
  | unheard {e : Error} {h' : Host} (hvalid : config.validate = .ok ())
      (hlistener : Listener.bind address h = (.error e, h')) :
      Binds address handler config h (.error e, h'.log .error s!"bind {address}: {e.message}")
  | uncreated {l : Listener} {e : Error} {h' : Host} {memory : Allocator}
      (hvalid : config.validate = .ok ())
      (hlistener : Listener.bind address h = (.ok l, h'))
      (hcreate : PollSet.create config.pollCapacity h'.memory = (.error e, memory)) :
      Binds address handler config h (.error e, { h' with memory := memory }.close l.fd)
  | unwatched {l : Listener} {e : Error} {h' : Host} {memory : Allocator} {polled : PollSet}
      (hvalid : config.validate = .ok ()) (hlistener : Listener.bind address h = (.ok l, h'))
      (hcreate : PollSet.create config.pollCapacity h'.memory = (.ok polled, memory))
      (hadd : (polled.setTimeout config.pollTimeout).add l.fd .listener = .error e) :
      Binds address handler config h (.error e, { h' with memory := memory }.close l.fd)
  | bound {l : Listener} {h' : Host} {memory : Allocator} {polled watched : PollSet}
      (hvalid : config.validate = .ok ()) (hlistener : Listener.bind address h = (.ok l, h'))
      (hcreate : PollSet.create config.pollCapacity h'.memory = (.ok polled, memory))
      (hadd : (polled.setTimeout config.pollTimeout).add l.fd .listener = .ok watched) :
      Binds address handler config h
        (.ok ⟨config, some l, l.address, watched, .empty, handler, none, 1, []⟩,
        { h' with memory := memory }.log .info
          s!"listening on {l.address.text} (max {config.maxClients} clients)")

/-- Binding a server ends in one of these ways. -/
theorem Server.bind_binds {L C : Type} (address : String) (handler : L)
    (config : Config) (h : Host) :
    Binds address handler config h
    (Server.bind address handler config h : Except Error (Server L C) × Host) := by
  rw [Server.bind]
  cases hvalid : config.validate with
  | error e => exact .invalid hvalid
  | ok valid =>
      dsimp only
      rcases hlistener : Listener.bind address h with ⟨e | l, h'⟩
      · exact .unheard hvalid hlistener
      · dsimp only
        rcases hcreate : PollSet.create config.pollCapacity h'.memory with ⟨e | polled, memory⟩
        · exact .uncreated hvalid hlistener hcreate
        · dsimp only
          cases hadd : (polled.setTimeout config.pollTimeout).add l.fd .listener with
          | error e => exact .unwatched hvalid hlistener hcreate hadd
          | ok watched => exact .bound hvalid hlistener hcreate hadd

/-- A server that can be bound is fresh, and has opened its listener only; one that
    cannot leaves nothing open. -/
theorem Server.bind_cases {L C : Type} (address : String) (handler : L)
    (config : Config) (h : Host) :
    (∃ e h', (Server.bind address handler config h : Except Error (Server L C) × Host)
      = (.error e, h')
        ∧ h'.openDescriptors = h.openDescriptors)
      ∨ ∃ (s : Server L C) (h' : Host), Server.bind address handler config h = (.ok s, h')
        ∧ s.Fresh h'
        ∧ ∃ l, s.listener = some l ∧ h'.openDescriptors = l.fd :: h.openDescriptors := by
  have hclosed : ∀ {l h'} (memory : Allocator), Listener.bind address h = (.ok l, h') →
      ({ h' with memory := memory }.close l.fd).openDescriptors = h.openDescriptors := by
    intro l h' memory hlistener
    have hopen := Listener.openDescriptors_bound hlistener
    rw [Host.openDescriptors_close]
    show h'.openDescriptors.erase l.fd = h.openDescriptors
    rw [hopen, List.erase_cons_head]
  have hbinds := Server.bind_binds (C := C) address handler config h
  generalize Server.bind address handler config h = result at hbinds
  cases hbinds with
  | invalid _ => exact .inl ⟨_, _, rfl, rfl⟩
  | unheard _ hlistener =>
      have hopen := Listener.openDescriptors_unbound hlistener
      exact .inl ⟨_, _, rfl, hopen⟩
  | uncreated _ hlistener _ => exact .inl ⟨_, _, rfl, hclosed _ hlistener⟩
  | unwatched _ hlistener _ _ => exact .inl ⟨_, _, rfl, hclosed _ hlistener⟩
  | @bound l h' _ polled _ _ hlistener hcreate hadd =>
      have hopen := Listener.openDescriptors_bound hlistener
      refine .inr ⟨_, _, rfl, ?_, l, rfl, hopen⟩
      obtain ⟨hwf, hempty⟩ := PollSet.empty_wellFormed hcreate
      have hwf₀ : (polled.setTimeout config.pollTimeout).WellFormed := hwf
      have hlist : l.fd ∈ h'.openDescriptors := hopen ▸ List.mem_cons_self
      obtain ⟨hwf', _, ⟨i, hpos, _, _⟩ | ⟨_, _, hentries⟩⟩ := PollSet.add_cases hwf₀ hadd
      · -- nothing is registered in a set that was just made
        obtain ⟨hi, _⟩ := PollSet.fd_at_position hpos
        rw [PollSet.toList_setTimeout, hempty] at hi
        exact absurd hi (Nat.not_lt_zero _)
      · rw [PollSet.toList_setTimeout, hempty] at hentries
        exact ⟨hwf', ⟨l, rfl, hentries, hlist⟩, rfl, rfl⟩

/-- A server that is bound has its listener and no connection. -/
theorem Server.bind_fresh {L C : Type} {address : String} {handler : L}
    {config : Config} {h h' : Host}
    {s : Server L C} (hbind : Server.bind address handler config h = (.ok s, h')) : s.Fresh h' := by
  obtain ⟨e, h₁, herror, _⟩ | ⟨s₁, h₁, hok, hfresh, _⟩ :=
    Server.bind_cases (L := L) (C := C) address handler config h
  · cases hbind.symm.trans herror
  · cases hbind.symm.trans hok
    exact hfresh

end EventLoop
