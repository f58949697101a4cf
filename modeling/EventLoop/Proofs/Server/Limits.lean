import EventLoop.Proofs.Server.Rounds

/-! # How many clients, and which failures

    A server never counts its clients. What limits them is the readiness set: it has one
    slot for the listener and one for each client there may be (`Limited`), and since set
    and table go together it is full exactly when the last client has come.

    * `Error.OfBinding`, `Error.OfAccepting`: the causes for which binding and accepting
      fail. The other causes are excluded by the rules that the limits keep and by the
      pairing of set and table.
    * `Server.bind_limited`, `Limited.moment`: a new server is limited, and every moment
      keeps it so.
    * `Server.accept_answer`: with a client waiting and nothing refused by the host, the
      set alone decides. -/

namespace EventLoop

open Application

variable {L C D : Type} {a b : Application L C D} {s s' : Server L C} {h h' : Host}

/-- The causes for which a server cannot be bound. -/
inductive Error.OfBinding : Error → Prop
  | config (rule : String) : OfBinding (.invalidConfig rule)
  | address (input : String) : OfBinding (.invalidAddress input)
  | system (call : String) (errno : Errno) : OfBinding (.os call errno)
  | memory (requested : Nat) : OfBinding (.outOfMemory requested)

/-- The causes for which a server for a number of clients does not accept one. -/
inductive Error.OfAccepting (maxClients : Nat) : Error → Prop
  | ended : OfAccepting maxClients .notBound
  | system (call : String) (errno : Errno) : OfAccepting maxClients (.os call errno)
  | memory (requested : Nat) : OfAccepting maxClients (.outOfMemory requested)
  | full : OfAccepting maxClients (.capacityExceeded (maxClients + 1))

/-- Memory for the two buffers of a connection is granted. -/
def Host.GrantsBuffers (h : Host) (size : Nat) : Prop :=
  (h.memory.request size).1 = true ∧ ((h.memory.request size).2.request size).1 = true

/-! ## Causes of failure -/

/-- A call of the system fails with the name of the call and a number. -/
theorem Host.call_error {α : Type} {name : String} {call : Kernel → Except Errno α × Kernel}
    {e : Error} (hcall : h.call name call = (.error e, h')) : ∃ errno, e = .os name errno := by
  rw [Host.call] at hcall
  rcases hresult : call h.kernel with ⟨errno | x, k⟩
  · rw [hresult] at hcall
    exact ⟨errno, (Except.error.inj (Prod.mk.inj hcall).1).symm⟩
  · rw [hresult] at hcall
    cases hcall

/-- Closing the socket after a failed step does not change the failure. -/
theorem Listener.guarded_error {α : Type} {fd : Descriptor} {step : Except Error α × Host}
    {e : Error} (hguarded : guarded fd step = (.error e, h')) : step = (.error e, step.2) := by
  obtain ⟨r, host⟩ := step
  cases r with
  | error e' =>
      cases hguarded
      rfl
  | ok x => cases hguarded

/-- Limits fail by one of their rules. -/
theorem Config.validate_error {config : Config} {e : Error}
    (hinvalid : config.validate = .error e) :
    ∃ rule, e = .invalidConfig rule := by
  rw [validate] at hinvalid
  split at hinvalid
  · exact ⟨_, (Except.error.inj hinvalid).symm⟩
  · split at hinvalid
    · exact ⟨_, (Except.error.inj hinvalid).symm⟩
    · split at hinvalid
      · exact ⟨_, (Except.error.inj hinvalid).symm⟩
      · split at hinvalid
        · exact ⟨_, (Except.error.inj hinvalid).symm⟩
        · cases hinvalid

/-- Valid limits have a buffer size that a buffer can be created with. -/
theorem Config.bufferSize_of_valid {config : Config} (hvalid : config.validate = .ok ()) :
    isPowerOfTwo config.bufferSize = true := by
  rw [validate] at hvalid
  split at hvalid
  · cases hvalid
  · split at hvalid
    · cases hvalid
    · rename_i hsize
      rwa [Bool.not_eq_true', Bool.not_eq_false] at hsize

/-- With a power of two for its size, a buffer fails for want of memory only. -/
theorem RingBuffer.create_error {size : Nat} {memory memory' : Allocator} {e : Error}
    (hsize : isPowerOfTwo size = true) (hcreate : create size memory = (.error e, memory')) :
    e = .outOfMemory size := by
  rw [create, hsize] at hcreate
  rcases hrequest : memory.request size with ⟨_ | _, rest⟩
  · rw [hrequest] at hcreate
    exact (Except.error.inj (Prod.mk.inj hcreate).1).symm
  · rw [hrequest] at hcreate
    cases hcreate

theorem Connection.create_error {id size : Nat} {socket : Socket} {peer address : Address}
    {handler : C} {e : Error} (hsize : isPowerOfTwo size = true)
    (hcreate : Connection.create id socket peer address size handler h = (.error e, h')) :
    e = .outOfMemory size := by
  rw [create] at hcreate
  rcases hinput : RingBuffer.create size h.memory with ⟨e₁ | input, memory⟩
  · simp only [hinput] at hcreate
    obtain rfl := Except.error.inj (Prod.mk.inj hcreate).1
    exact RingBuffer.create_error hsize hinput
  · rcases houtput : RingBuffer.create size memory with ⟨e₂ | output, memory'⟩
    · simp only [hinput, houtput] at hcreate
      obtain rfl := Except.error.inj (Prod.mk.inj hcreate).1
      exact RingBuffer.create_error hsize houtput
    · simp only [hinput, houtput] at hcreate
      cases hcreate

/-- Where memory grants two buffers, there is a connection. -/
theorem Connection.create_of_granted {size : Nat} (id : Nat) (socket : Socket)
    (peer address : Address) (handler : C)
    (hsize : isPowerOfTwo size = true) (hmemory : h.GrantsBuffers size) :
    ∃ c h', Connection.create id socket peer address size handler h = (.ok c, h') := by
  rw [create, RingBuffer.create_eq hsize hmemory.1]
  dsimp only
  rw [RingBuffer.create_eq hsize hmemory.2]
  exact ⟨_, _, rfl⟩

/-- Buffers that are granted as a matter of course leave memory as it is. -/
theorem Connection.create_of_lent {size : Nat} (id : Nat) (socket : Socket)
    (peer address : Address) (handler : C)
    (hsize : isPowerOfTwo size = true) (hmemory : h.memory.request size = (true, h.memory)) :
    ∃ c, Connection.create id socket peer address size handler h = (.ok c, h) := by
  have hbuffer : RingBuffer.create size h.memory = (.ok (.blank size), h.memory) := by
    rw [RingBuffer.create_eq hsize (by rw [hmemory]), hmemory]
  rw [create, hbuffer]
  dsimp only
  rw [hbuffer]
  exact ⟨_, rfl⟩

/-- A set with room for an entry fails for want of memory only. -/
theorem PollSet.create_error {capacity : Nat} {memory memory' : Allocator} {e : Error}
    (hpos : capacity ≠ 0)
    (hcreate : create capacity memory = (.error e, memory')) :
    ∃ requested, e = .outOfMemory requested := by
  rw [create, if_neg hpos] at hcreate
  rcases hrequest : memory.request (slotBytes * capacity) with ⟨_ | _, rest⟩
  · rw [hrequest] at hcreate
    exact ⟨_, (Except.error.inj (Prod.mk.inj hcreate).1).symm⟩
  · rw [hrequest] at hcreate
    cases hcreate

/-- A set that is made has the slots asked for, and they fit in the memory there is. -/
theorem PollSet.create_ok {capacity : Nat} {memory memory' : Allocator} {p : PollSet}
    (hcreate : create capacity memory = (.ok p, memory')) :
    p.capacity = capacity ∧ slotBytes * capacity ≤ maxObject := by
  rw [create] at hcreate
  split at hcreate
  · cases hcreate
  · rcases hrequest : memory.request (slotBytes * capacity) with ⟨_ | _, rest⟩
    · rw [hrequest] at hcreate
      cases hcreate
    · rw [hrequest] at hcreate
      obtain rfl := Except.ok.inj (Prod.mk.inj hcreate).1
      refine ⟨Array.size_replicate, ?_⟩
      exact Allocator.request_le (by rw [hrequest])

/-- On a stream neither call fails. -/
theorem Host.setNonblocking_of_stream {fd : Descriptor} {index : Nat} {nonblocking : Bool}
    (hfile : h.kernel.file? fd = some ⟨.stream index, nonblocking⟩) :
    h.setNonblocking fd = (.ok (), { h with kernel := (h.kernel.setNonblocking fd).2 }) := by
  rw [setNonblocking, call, Kernel.flags, hfile]
  dsimp only
  rw [call, Kernel.setNonblocking_of_stream hfile]

/-- Setting a file not to wait fails in one of its two calls. -/
theorem Host.setNonblocking_error {fd : Descriptor} {e : Error}
    (hset : h.setNonblocking fd = (.error e, h')) : ∃ call errno, e = .os call errno := by
  rw [setNonblocking] at hset
  rcases hflags : h.call "fcntl(F_GETFL)" (·.flags fd) with ⟨e₁ | x, h₁⟩
  · simp only [hflags] at hset
    obtain rfl := Except.error.inj (Prod.mk.inj hset).1
    exact ⟨_, Host.call_error hflags⟩
  · simp only [hflags] at hset
    exact ⟨_, Host.call_error hset⟩

/-- Each failure in the making of a listener is that of a call. -/
theorem Listener.prepare_error {fd : Descriptor} {address : Address} {e : Error}
    (hprepare : prepare fd address h = (.error e, h')) : ∃ call errno, e = .os call errno := by
  rw [prepare] at hprepare
  rcases hreuse : h.call "setsockopt(SO_REUSEADDR)" (·.reuseAddress fd) with ⟨e₁ | x, h₁⟩
  · simp only [hreuse] at hprepare
    obtain rfl := Except.error.inj (Prod.mk.inj hprepare).1
    exact ⟨_, Host.call_error hreuse⟩
  simp only [hreuse] at hprepare
  rcases hbound : h₁.call "bind" (·.bind fd address) with ⟨e₂ | x, h₂⟩
  · simp only [hbound] at hprepare
    obtain rfl := Except.error.inj (Prod.mk.inj hprepare).1
    exact ⟨_, Host.call_error hbound⟩
  simp only [hbound] at hprepare
  rcases hlisten : h₂.call "listen" (·.listen fd) with ⟨e₃ | x, h₃⟩
  · simp only [hlisten] at hprepare
    obtain rfl := Except.error.inj (Prod.mk.inj hprepare).1
    exact ⟨_, Host.call_error hlisten⟩
  simp only [hlisten] at hprepare
  rcases hset : h₃.setNonblocking fd with ⟨e₄ | x, h₄⟩
  · simp only [hset] at hprepare
    obtain rfl := Except.error.inj (Prod.mk.inj hprepare).1
    exact Host.setNonblocking_error hset
  simp only [hset] at hprepare
  exact ⟨_, Host.call_error hprepare⟩

/-- Whichever step of binding fails, it is a call of the system. -/
theorem Listener.bindAddress_error {address : Address} {e : Error}
    (hbind : bindAddress address h = (.error e, h')) : ∃ call errno, e = .os call errno := by
  rw [bindAddress] at hbind
  rcases hsocket : h.call "socket" Kernel.socket with ⟨e₁ | fd, h₁⟩
  · simp only [hsocket] at hbind
    obtain rfl := Except.error.inj (Prod.mk.inj hbind).1
    exact ⟨_, Host.call_error hsocket⟩
  simp only [hsocket] at hbind
  rcases hprepare : guarded fd (prepare fd address h₁) with ⟨e₂ | x, h₂⟩
  · simp only [hprepare] at hbind
    obtain rfl := Except.error.inj (Prod.mk.inj hbind).1
    exact prepare_error (guarded_error hprepare)
  · simp only [hprepare] at hbind
    cases hbind

/-- Listening fails for other reasons than the limits of a server. -/
theorem Listener.bind_error {address : String} {e : Error}
    (hbind : Listener.bind address h = (.error e, h')) :
    e.OfBinding ∧ ∀ rule, e ≠ .invalidConfig rule := by
  rw [Listener.bind, Address.parse] at hbind
  cases hread : Address.read? address.toList with
  | none =>
      rw [hread] at hbind
      obtain rfl := Except.error.inj (Prod.mk.inj hbind).1
      exact ⟨.address address, fun _ hother => by cases hother⟩
  | some addr =>
      rw [hread] at hbind
      obtain ⟨call, errno, rfl⟩ := bindAddress_error hbind
      exact ⟨.system call errno, fun _ hother => by cases hother⟩

/-- Accepting at a listener fails in the call of that name only. -/
theorem Listener.accept_error {l : Listener} {e : Error} (haccept : l.accept h = (.error e, h')) :
    ∃ errno, e = .os "accept" errno := by
  rw [Listener.accept] at haccept
  rcases hcall : h.call "accept" (·.accept l.fd) with ⟨e' | ⟨fd, peer⟩, h₁⟩
  · simp only [hcall] at haccept
    cases haccept
    exact Host.call_error hcall
  · simp only [hcall] at haccept
    cases haccept

/-- The listener asks for no memory. -/
theorem Listener.memory_accept (l : Listener) (h : Host) : (l.accept h).2.memory = h.memory := by
  rw [Listener.accept, Host.call]
  rcases h.kernel.accept l.fd with ⟨_ | _, _⟩ <;> rfl

/-! ## The slots of the set -/

/-- A server with valid limits whose set has a slot for the listener and one for each
    client. -/
structure Limited (config : Config) (s : Server L C) : Prop where
  limits : s.config = config
  valid : config.validate = .ok ()
  slots : s.polled.capacity = config.maxClients + 1

/-- There is a slot for the listener, whatever the limits. -/
theorem Config.pollCapacity_ne_zero (config : Config) : config.pollCapacity ≠ 0 := by
  have hword : maxWord = 18446744073709551615 := rfl
  rw [pollCapacity]
  omega

/-- What fits in memory is below the number at which counting slots stops. -/
theorem Config.pollCapacity_of_fits {config : Config}
    (hfits : PollSet.slotBytes * config.pollCapacity ≤ maxObject) :
    config.pollCapacity = config.maxClients + 1 := by
  have hword : maxWord = 18446744073709551615 := rfl
  have hobject : maxObject = 9223372036854775807 := rfl
  rw [hobject, PollSet.slotBytes, pollCapacity] at hfits
  rw [pollCapacity]
  omega

namespace Server

variable {address : String} {handler : L} {config : Config} {e : Error}

/-- Binding fails at once with the rule that the limits break, or later and for another
    reason. -/
theorem bind_error
    (hbind : (Server.bind address handler config h : Except Error (Server L C) × Host)
      = (.error e, h')) :
    (config.validate = .error e ∧ h' = h)
      ∨ (config.validate = .ok () ∧ e.OfBinding ∧ ∀ rule, e ≠ .invalidConfig rule) := by
  have hbinds := Server.bind_binds (C := C) address handler config h
  rw [hbind] at hbinds
  cases hbinds with
  | invalid hinvalid => exact .inl ⟨hinvalid, rfl⟩
  | unheard hvalid hlistener => exact .inr ⟨hvalid, Listener.bind_error hlistener⟩
  | uncreated hvalid _ hcreate =>
      obtain ⟨requested, rfl⟩ := PollSet.create_error config.pollCapacity_ne_zero hcreate
      exact .inr ⟨hvalid, .memory requested, fun _ hother => by cases hother⟩
  | unwatched _ _ hcreate hadd =>
      -- a new set has at least one slot, and none of its slots is in use
      obtain ⟨_, hfull, _⟩ := PollSet.add_error hadd
      obtain ⟨hwf, hempty⟩ := PollSet.empty_wellFormed hcreate
      have hnone := PollSet.length_toList hwf
      rw [hempty, List.length_nil] at hnone
      have hzero : config.pollCapacity = 0 :=
        (PollSet.create_ok hcreate).1.symm.trans (hfull.symm.trans hnone.symm)
      exact absurd hzero config.pollCapacity_ne_zero

/-- A server that is bound keeps within its limits. -/
theorem bind_limited (hbind : Server.bind address handler config h = (.ok s, h')) :
    Limited config s := by
  have hbinds := Server.bind_binds (C := C) address handler config h
  rw [hbind] at hbinds
  cases hbinds with
  | @bound _ _ _ polled watched hvalid _ hcreate hadd =>
      obtain ⟨hslots, hfits⟩ := PollSet.create_ok hcreate
      have hwf : (polled.setTimeout config.pollTimeout).WellFormed :=
        (PollSet.empty_wellFormed hcreate).1
      obtain ⟨_, hcapacity, _⟩ := PollSet.add_cases hwf hadd
      refine ⟨rfl, hvalid, ?_⟩
      show watched.capacity = config.maxClients + 1
      rw [hcapacity]
      exact hslots.trans (Config.pollCapacity_of_fits hfits)

end Server

/-- No change gives the set more slots or takes any. -/
theorem Change.capacity (h : Paired a) (hchange : Change a b) :
    b.server.polled.capacity = a.server.polled.capacity := by
  cases hchange with
  | quiet timeout hpolled _ _ _ _ =>
      rw [hpolled]
      rfl
  | admitted fd _ hadd _ _ _ _ _ => exact (PollSet.add_cases h.wellFormed hadd).2.1
  | removed x _ hpolled _ _ _ _ =>
      rw [hpolled]
      exact PollSet.capacity_remove h.wellFormed x.key
  | retuned fd interest _ hadd _ _ _ _ => exact (PollSet.add_cases h.wellFormed hadd).2.1
  | closed hpolled _ _ _ =>
      rw [hpolled]
      exact PollSet.capacity_clear h.wellFormed

namespace Limited

variable {config : Config}

/-- No moment changes the limits or the number of slots. -/
theorem moment (h : Limited config a.server) (hpaired : Paired a) (hmoment : Moment a b) :
    Limited config b.server := by
  cases hmoment with
  | step hstep =>
      refine ⟨hstep.config.trans h.limits, h.valid, ?_⟩
      exact ((hstep.change hpaired.keys_nodup).capacity hpaired).trans h.slots
  | wait =>
      rw [after_run]
      rcases hwait : a.server.wait a.host with ⟨r, s', h'⟩
      obtain ⟨polled, rfl, rfl | ⟨results, rfl⟩, _⟩ := Server.wait_cases hwait
      · exact ⟨h.limits, h.valid, h.slots⟩
      · exact ⟨h.limits, h.valid, (PollSet.capacity_record _ results).trans h.slots⟩
  | note noted => exact ⟨h.limits, h.valid, h.slots⟩

/-- Wherever a bound server gets to, its limits are those it was bound with. -/
theorem reaches {address : String} {handler : L} {data : D}
    (hbind : Server.bind address handler config h = (.ok s, h'))
    (hreach : Reaches ⟨s, h', data⟩ a) :
    Limited config a.server := by
  have hstart : Reachable ⟨s, h', data⟩ := ⟨address, handler, config, h, s, h', data, hbind, .refl⟩
  -- on what happened since the server was bound
  induction hreach with
  | refl => exact Server.bind_limited hbind
  | tail hfirst hlast ih => exact ih.moment (hstart.of_reaches hfirst).paired hlast

/-- Every server that a program can have is limited. -/
theorem of_reachable (h : Reachable a) : ∃ config, Limited config a.server := by
  obtain ⟨_, _, config, _, _, _, _, hbind, hreach⟩ := h
  exact ⟨config, .reaches hbind hreach⟩

/-- The set is full exactly when the last client has come. -/
theorem full_iff (h : Limited config a.server) (hpaired : Paired a) {l : Listener}
    (hl : a.server.listener = some l) :
    a.server.polled.registered = a.server.polled.capacity
    ↔ a.server.connections.size = config.maxClients := by
  rw [h.slots, (hpaired.matched hl).count]
  omega

/-- The slots of the set, one of them the listener's, bound the number of connections. -/
theorem size_le (h : Limited config a.server) (hpaired : Paired a) :
    a.server.connections.size ≤ config.maxClients := by
  cases hl : a.server.listener with
  | none =>
      have hempty : a.server.connections.entries = [] := List.map_eq_nil_iff.mp (hpaired.ended hl)
      rw [DescriptorTable.size, hempty]
      exact Nat.zero_le _
  | some l =>
      have hroom : a.server.polled.registered ≤ a.server.polled.capacity := hpaired.wellFormed
      rw [h.slots, (hpaired.matched hl).count] at hroom
      omega

end Limited

/-! ## Accepting -/

namespace Server

variable {handler : C} {fd : Descriptor} {peer : Address} {e : Error}

/-- Under a descriptor that nobody has, a socket is turned away for want of memory, or of a
    slot when the set is full. -/
theorem register_error (hsize : isPowerOfTwo s.config.bufferSize = true)
    (hnew : s.connections.contains fd = false)
    (hregister : s.register ⟨fd⟩ peer handler h = (.error e, s', h')) :
    e = .outOfMemory s.config.bufferSize
      ∨ e = .capacityExceeded s.polled.capacity ∧ s.polled.registered = s.polled.capacity := by
  rw [register, if_neg (by rw [hnew]; exact Bool.false_ne_true)] at hregister
  rcases hcreate : Connection.create s.nextId ⟨fd⟩ peer s.localAddress s.config.bufferSize handler h
    with ⟨e₁ | c, h₁⟩
  · simp only [hcreate] at hregister
    cases hregister
    exact .inl (Connection.create_error hsize hcreate)
  · cases hadd : s.polled.add fd .connection with
    | error e₂ =>
        simp only [hcreate, hadd] at hregister
        cases hregister
        obtain ⟨_, hfull, hcause⟩ := PollSet.add_error hadd
        exact .inr ⟨hcause, hfull⟩
    | ok polled =>
        simp only [hcreate, hadd, DescriptorTable.insert_of_not_contains c hnew] at hregister
        cases hregister

/-- With memory for the buffers only the set can turn a new socket away, and only when it
    is full. -/
theorem register_of_granted (hsize : isPowerOfTwo s.config.bufferSize = true)
    (hmemory : h.GrantsBuffers s.config.bufferSize) (hnew : s.connections.contains fd = false)
    (hwatched : fd ∉ s.polled.descriptors) :
    (s.register ⟨fd⟩ peer handler h).1
      = if s.polled.registered = s.polled.capacity then .error (.capacityExceeded s.polled.capacity)
      else .ok fd := by
  obtain ⟨c, h₁, hcreate⟩ :=
    Connection.create_of_granted s.nextId ⟨fd⟩ peer s.localAddress handler hsize hmemory
  rw [register, if_neg (by rw [hnew]; exact Bool.false_ne_true)]
  simp only [hcreate]
  by_cases hfull : s.polled.registered = s.polled.capacity
  · rw [if_pos hfull, PollSet.add_of_full .connection hwatched hfull]
  · rw [if_neg hfull]
    cases hadd : s.polled.add fd .connection with
    | error e => exact absurd (PollSet.add_error hadd).2.1 hfull
    | ok polled => simp only [DescriptorTable.insert_of_not_contains c hnew]

/-- Where memory grants what it is asked for, it is left as it is. -/
theorem register_memory (hsize : isPowerOfTwo s.config.bufferSize = true)
    (hmemory : h.memory.request s.config.bufferSize = (true, h.memory)) (socket : Socket)
    (peer : Address) (handler : C) :
    (s.register socket peer handler h).2.2.memory = h.memory := by
  obtain ⟨c, hcreate⟩ :=
    Connection.create_of_lent s.nextId socket peer s.localAddress handler hsize hmemory
  rw [register, hcreate]
  split
  · rfl
  · dsimp only
    split
    · rfl
    · split <;> rfl

/-- Where a client waits and a descriptor can be made, accepting comes down to
    registering its socket. -/
theorem accept_of_waiting {l : Listener} (hl : s.listener = some l) (hwaiting : 0 < s.pending h)
    (hfree : h.kernel.admits h.kernel.lowestFree = true) (handler : C) :
    ∃ peer first k, h.kernel.Accepts l.fd h.kernel.lowestFree first k
      ∧ s.accept handler h = s.register ⟨h.kernel.lowestFree⟩ peer handler
          { h with kernel := (k.setNonblocking h.kernel.lowestFree).2 } := by
  rw [pending, hl] at hwaiting
  obtain ⟨first, peer, k, haccept, haccepts⟩ := Kernel.accept_of_waiting hwaiting hfree
  have htaken : l.accept h = (.ok (⟨h.kernel.lowestFree⟩, peer), { h with kernel := k }) := by
    rw [Listener.accept, Host.call, haccept]
  refine ⟨peer, first, k, haccepts, ?_⟩
  rw [accept, acceptBy, hl]
  have hkept := Host.setNonblocking_of_stream (h := { h with kernel := k }) haccepts.file?_fd
  simp only [htaken, hkept, Listener.guarded]

/-- Where no client waits, accepting would have to wait. -/
theorem accept_of_nobody {l : Listener} (hl : s.listener = some l)
    (hlistens : h.kernel.Listens l.fd)
    (hnobody : h.kernel.queue l.fd = []) (hfree : h.kernel.admits h.kernel.lowestFree = true)
    (handler : C) :
    (s.accept handler h).1 = .error (.os "accept" .again) := by
  have htaken : l.accept h = (.error (.os "accept" .again), h) := by
    rw [Listener.accept, Host.call, hlistens.accept_of_nobody hnobody hfree]
  rw [accept, acceptBy, hl]
  simp only [htaken]

/-- What accepting comes to at an open listener: nobody is taken from its queue, or the client
    that came first is turned away, or let in. -/
inductive Answers (s : Server L C) (handler : C) (l : Listener) (h : Host) :
    Except Error Descriptor × Server L C × Host → Prop
  | nobody {call : String} {errno : Errno} {h' : Host} (hkernel : h'.kernel = h.kernel) :
      Answers s handler l h (.error (.os call errno), s, h')
  | turnedAway {fd : Descriptor} {first : Nat} {k : Kernel} {e : Error} {h' : Host}
      (haccepts : h.kernel.Accepts l.fd fd first k)
      (hcause : e = .outOfMemory s.config.bufferSize ∨ e = .capacityExceeded s.polled.capacity)
      (hkernel : h'.kernel = (k.setNonblocking fd).2.close fd) :
      Answers s handler l h (.error e, s, h')
  | letIn {fd : Descriptor} {first : Nat} {k : Kernel} {s' : Server L C} {h' : Host}
      (haccepts : h.kernel.Accepts l.fd fd first k) (hadmits : s.Admits fd handler s')
      (hkernel : h'.kernel = (k.setNonblocking fd).2) : Answers s handler l h (.ok fd, s', h')

end Server

/-- No connection has a descriptor that is not open. -/
theorem Paired.contains_of_fresh (h : Paired a) {fd : Descriptor}
    (hfresh : fd ∉ a.host.openDescriptors) :
    a.server.connections.contains fd = false := by
  rw [← Bool.not_eq_true, DescriptorTable.contains_eq_true_iff, Server.keys_eq_roster]
  intro hmem
  obtain ⟨x, hx, rfl⟩ := List.mem_map.mp hmem
  exact hfresh (h.isOpen (h.mem_descriptors hx))

namespace Limited

variable {config : Config} (hlimited : Limited config a.server) (hpaired : Paired a)

include hlimited

/-- The buffer size of a server that a program can have is a power of two. -/
theorem bufferSize : isPowerOfTwo a.server.config.bufferSize = true := by
  rw [hlimited.limits]
  exact Config.bufferSize_of_valid hlimited.valid

omit hlimited

include hpaired

/-- Where the system hands out a client, accepting comes down to registering its socket, under
    a descriptor that nobody had. -/
theorem accept_registers {l : Listener} (hl : a.server.listener = some l) (handler : C) :
    (∃ errno h', a.server.accept handler a.host = (.error (.os "accept" errno), a.server, h')
        ∧ h'.kernel = a.host.kernel ∧ h'.memory = a.host.memory)
      ∨ ∃ fd peer first k h₁, a.host.kernel.Accepts l.fd fd first k
        ∧ h₁.kernel = (k.setNonblocking fd).2
        ∧ h₁.memory = a.host.memory ∧ a.server.connections.contains fd = false
        ∧ a.server.accept handler a.host = a.server.register ⟨fd⟩ peer handler h₁ := by
  rw [Server.accept, Server.acceptBy, hl]
  dsimp only
  have hmemory := l.memory_accept a.host
  obtain ⟨fd, peer, h₁, htaken, first, haccepts⟩ | ⟨e, h₁, htaken, hkernel⟩ := l.accept_takes a.host
  · have hkept : Listener.guarded fd (h₁.setNonblocking fd)
        = (.ok (), { h₁ with kernel := (h₁.kernel.setNonblocking fd).2 }) := by
      rw [Host.setNonblocking_of_stream haccepts.file?_fd]
      rfl
    have hsame : h₁.memory = a.host.memory := by rwa [htaken] at hmemory
    simp only [htaken, hkept]
    -- the system hands out what was not open, so that no connection has it
    exact .inr ⟨fd, peer, first, _, { h₁ with kernel := (h₁.kernel.setNonblocking fd).2 },
      haccepts, rfl, hsame,
      hpaired.contains_of_fresh haccepts.fresh, rfl⟩
  · have hsame : h₁.memory = a.host.memory := by rwa [htaken] at hmemory
    simp only [htaken]
    obtain ⟨errno, rfl⟩ := Listener.accept_error htaken
    refine .inl ⟨errno, _, rfl, ?_⟩
    split <;> exact ⟨hkernel, hsame⟩

include hlimited

/-- Under a descriptor that nobody had, an accepted client is let in, or turned away for want
    of memory or of a slot. -/
theorem answers {l : Listener} (hl : a.server.listener = some l) (handler : C) :
    a.server.Answers handler l a.host (a.server.accept handler a.host) := by
  obtain ⟨errno, h', haccept, hkernel, _⟩ | ⟨fd, peer, first, k, h₁, haccepts, hkernel, _,
    hnew, haccept⟩ :=
    accept_registers hpaired hl handler
  · rw [haccept]
    exact .nobody hkernel
  · rw [haccept]
    obtain ⟨e, h', hregister, hclosed⟩ | ⟨s', h', hregister, _, hadmits, hsame⟩ :=
      a.server.register_cases fd peer handler h₁
    · rw [hregister]
      rw [hkernel] at hclosed
      exact .turnedAway haccepts
        ((Server.register_error hlimited.bufferSize hnew hregister).imp_right And.left) hclosed
    · rw [hregister]
      exact .letIn haccepts hadmits (hsame.trans hkernel)

/-- A client that is turned away for want of a slot finds as many clients as may be. -/
theorem full_of_exceeded {handler : C} {slots : Nat}
    (haccept : a.server.accept handler a.host = (.error (.capacityExceeded slots), s', h')) :
    a.server.connections.size = config.maxClients := by
  cases hl : a.server.listener with
  | none => cases (Server.accept_of_unbound hl handler a.host).symm.trans haccept
  | some l =>
      obtain ⟨_, _, hresult, _⟩ | ⟨_, _, _, _, _, _, _, _, hnew, hresult⟩ :=
        accept_registers hpaired hl handler
      · cases hresult.symm.trans haccept
      · rw [hresult] at haccept
        obtain hmemory | ⟨_, hfull⟩ := Server.register_error hlimited.bufferSize hnew haccept
        · cases hmemory
        · exact (hlimited.full_iff hpaired hl).mp hfull

/-- Memory that is lent as a matter of course is as it was afterwards. -/
theorem accept_memory {l : Listener} (hl : a.server.listener = some l) (handler : C)
    (hmemory : a.host.memory.request config.bufferSize = (true, a.host.memory)) :
    (a.server.accept handler a.host).2.2.memory = a.host.memory := by
  obtain ⟨_, _, haccept, _, hsame⟩ | ⟨_, _, _, _, _, _, _, hsame, _, haccept⟩ :=
    accept_registers hpaired hl handler
  · rw [haccept]
    exact hsame
  · rw [← hsame, ← hlimited.limits] at hmemory
    rw [haccept, Server.register_memory hlimited.bufferSize hmemory, hsame]

/-- Accepting fails for the listed causes only. -/
theorem accept_error {handler : C} {e : Error}
    (haccept : a.server.accept handler a.host = (.error e, s', h')) :
    e.OfAccepting config.maxClients := by
  cases hl : a.server.listener with
  | none =>
      cases (Server.accept_of_unbound hl handler a.host).symm.trans haccept
      exact .ended
  | some l =>
      have hanswers := hlimited.answers hpaired hl handler
      rw [haccept] at hanswers
      cases hanswers with
      | nobody _ => exact .system _ _
      | turnedAway _ hcause _ =>
          obtain rfl | rfl := hcause
          · exact .memory _
          · rw [hlimited.slots]
            exact .full

/-- With memory, a descriptor and a client for it, the number of clients decides. -/
theorem accept_answer (hwaiting : 0 < a.server.pending a.host)
    (hfree : a.host.kernel.admits a.host.kernel.lowestFree = true)
    (hmemory : a.host.GrantsBuffers config.bufferSize) (handler : C) :
    (a.server.accept handler a.host).1
      = if a.server.connections.size < config.maxClients then .ok a.host.kernel.lowestFree
        else .error (.capacityExceeded (config.maxClients + 1)) := by
  cases hl : a.server.listener with
  | none =>
      rw [Server.pending, hl] at hwaiting
      exact absurd hwaiting (Nat.lt_irrefl 0)
  | some l =>
      have hfresh : a.host.kernel.lowestFree ∉ a.host.openDescriptors :=
        a.host.kernel.lowestFree_not_mem
      obtain ⟨peer, _, k, _, haccept⟩ := Server.accept_of_waiting hl hwaiting hfree handler
      rw [haccept, Server.register_of_granted hlimited.bufferSize (hlimited.limits ▸ hmemory)
        (hpaired.contains_of_fresh hfresh) fun hmem => hfresh (hpaired.isOpen hmem), hlimited.slots]
      have hfull := hlimited.full_iff hpaired hl
      rw [hlimited.slots] at hfull
      have hle := hlimited.size_le hpaired
      by_cases hsize : a.server.connections.size < config.maxClients
      · rw [if_pos hsize, if_neg fun hslots => absurd (hfull.mp hslots) (Nat.ne_of_lt hsize)]
      · rw [if_neg hsize, if_pos (hfull.mpr (by omega))]

end Limited

/-- Binding fails for the listed causes only, and for its limits exactly when they break a
    rule, whatever the address and before anything is done about it. In a server that was
    bound, wherever it has come, there are never more connections than clients allowed;
    accepting fails for the listed causes only; and with a client waiting, a descriptor to
    be had and memory for the buffers it succeeds exactly as long as there are fewer. -/
theorem clients_limited {address : String} {handler : L} {config : Config} {data : D}
    (hbind : Server.bind address handler config h = (.ok s, h'))
    (hreach : Reaches ⟨s, h', data⟩ a) :
    a.server.connections.size ≤ config.maxClients
      ∧ (∀ handler, 0 < a.server.pending a.host →
        a.host.kernel.admits a.host.kernel.lowestFree = true →
          a.host.GrantsBuffers config.bufferSize →
          (a.server.accept handler a.host).1
            = if a.server.connections.size < config.maxClients then .ok a.host.kernel.lowestFree
              else .error (.capacityExceeded (config.maxClients + 1)))
      ∧ (∀ handler e, (a.server.accept handler a.host).1 = .error e →
        e.OfAccepting config.maxClients)
      ∧ ∀ (address : String) (handler : L) (config : Config) (host : Host)
      (bound : Except Error (Server L C)) (after : Host),
          Server.bind address handler config host = (bound, after) →
            (∀ e, bound = .error e → e.OfBinding)
              ∧ ((∃ rule, bound = .error (.invalidConfig rule)) ↔ ∃ e, config.validate = .error e)
              ∧ ∀ e, config.validate = .error e → bound = .error e ∧ after = host := by
  have hpaired : Paired a := Reachable.paired ⟨_, _, _, _, _, _, data, hbind, hreach⟩
  have hlimited : Limited config a.server := .reaches hbind hreach
  refine ⟨hlimited.size_le hpaired, ?_, ?_, ?_⟩
  · intro handler hwaiting hfree hmemory
    exact hlimited.accept_answer hpaired hwaiting hfree hmemory handler
  · intro handler e herror
    rcases haccept : a.server.accept handler a.host with ⟨r, s', h'⟩
    rw [haccept] at herror
    obtain rfl : r = .error e := herror
    exact hlimited.accept_error hpaired haccept
  · intro address handler config host bound after hresult
    -- invalid limits are found before the host is touched
    have hrejected : ∀ e, config.validate = .error e → bound = .error e ∧ after = host := by
      intro e hinvalid
      rw [Server.bind, hinvalid] at hresult
      cases hresult
      exact ⟨rfl, rfl⟩
    refine ⟨?_, ?_, hrejected⟩
    · rintro e rfl
      obtain ⟨hinvalid, _⟩ | ⟨_, hother, _⟩ := Server.bind_error hresult
      · obtain ⟨rule, rfl⟩ := Config.validate_error hinvalid
        exact .config rule
      · exact hother
    · constructor
      · rintro ⟨rule, rfl⟩
        obtain ⟨hinvalid, _⟩ | ⟨_, _, hother⟩ := Server.bind_error hresult
        · exact ⟨_, hinvalid⟩
        · exact absurd rfl (hother rule)
      · rintro ⟨e, hinvalid⟩
        obtain ⟨rule, rfl⟩ := Config.validate_error hinvalid
        exact ⟨rule, (hrejected _ hinvalid).1⟩

/-- Two clients are the limit: with both accepted a third one is turned away, and after one
    of them is gone it is accepted. -/
theorem clients_limited_serving : ∃ (start app : Application Unit Unit Unit),
    Server.bind "127.0.0.1:0" () ⟨2, 16, 0, 8⟩ (Host.fresh .loopback (.withLevel .off))
        = (.ok start.server, start.host)
      ∧ Reaches start app ∧ app.server.connections.size = 2
      ∧ (app.server.accept () app.host).1 = .error (.capacityExceeded 3)
      ∧ ((after (run (·.disconnect 4)) app).server.accept ()
        (after (run (·.disconnect 4)) app).host).1 = .ok 4 := by
  have hserving : (Loopback.serving? 3 2).map (fun app => (app.server.connections.size,
      decide (0 < app.server.pending app.host), app.host.kernel.admits app.host.kernel.lowestFree,
      (app.host.memory.request 16).1, ((app.host.memory.request 16).2.request 16).1))
        = some (2, true, true, true, true) := by
    decide +kernel
  have hleft : (Loopback.serving? 3 2).map (fun app =>
      let left := after (run (·.disconnect 4)) app
      (left.server.connections.size, decide (0 < left.server.pending left.host),
        decide (left.host.kernel.lowestFree = 4), left.host.kernel.admits
          left.host.kernel.lowestFree,
        (left.host.memory.request 16).1, ((left.host.memory.request 16).2.request 16).1))
        = some (1, true, true, true, true, true) := by
    decide +kernel
  obtain ⟨app, happ, hparts⟩ := Option.map_eq_some_iff.mp hserving
  rw [happ, Option.map_some] at hleft
  simp only [Prod.mk.injEq, Option.some.injEq, decide_eq_true_eq] at hparts hleft
  obtain ⟨hsize, hwaiting, hfree, hmemory⟩ := hparts
  obtain ⟨hsize', hwaiting', hlowest, hfree', hmemory'⟩ := hleft
  obtain ⟨start, hbound, hsteps⟩ := Loopback.serving_operated happ
  have hbind := Loopback.bind_of_bound hbound
  have hreach : Reaches ⟨start.server, start.host, ()⟩ app := hsteps.reaches
  obtain ⟨_, hfull, _⟩ := clients_limited hbind hreach
  obtain ⟨_, hroom, _⟩ := clients_limited hbind (hreach.tail (.step (.disconnect app 4)))
  refine ⟨start, app, hbind, hreach, hsize, ?_, ?_⟩
  · rw [hfull () hwaiting hfree hmemory, hsize]
    rfl
  · rw [hroom () hwaiting' hfree' hmemory', hsize', hlowest]
    rfl

end EventLoop
