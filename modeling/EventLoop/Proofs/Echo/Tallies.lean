import EventLoop.Proofs.Echo.Attempts
import EventLoop.Proofs.Echo.Books
import EventLoop.Proofs.Echo.Conservation

/-! # The counters are a ledger

    The counters of an echo server agree with what happened in its run and with what its
    connections hold. Who came is live or was closed; who was taken from the queue was
    accepted, turned away, or came when memory was short; and the bytes that came in
    went out, are held, or were lost with a connection that failed.

    * `Recorded`: a run, with the attempts to accept and the turns of all its rounds.
      Every run has such a record (`Running.recorded`).
    * `Tallies`: the ledger. It is kept by an attempt (`Tallies.admitted`,
      `Tallies.rejected`, `Tallies.refused`), by a turn (`Tallies.skipped`,
      `Tallies.call`), hence by a round, and by all that happens between rounds but for
      the cleanup. The number of attempts and turns bounds the counters
      (`Stats.Bounded`), and so says when words hold them (`Stats.Fits`).
    * `Recorded.tallies` is the induction on the run. -/

namespace EventLoop.Echo

open Application

variable {size limit : Nat} {noted rest : List Ready} {served : List Nat} {a b : Service}
  {attempts : List Service} {turns : List (EventLoop.Turn Unit Unit Stats)} {c : Connection Unit}
  {r : Ready} {fd : Descriptor} {s : Server Unit Unit} {h' : Host}

/-! ## What a turn loses -/

/-- The service of the connection that a turn is for, if its handler is called: whether the
    connection is kept, and what the service leaves. -/
def service? (t : EventLoop.Turn Unit Unit Stats) : Option (Bool × Turn) :=
  (t.before.server.connections.get? t.ready.fd).bind fun c =>
    if c.id = t.ready.id then
      let host := (t.before.traced s!"dispatch fd {t.ready.fd} {t.ready.events.inspect}").host
      some ((⟨c, t.before.data, host⟩ : Turn).serve t.ready.events)
    else none

/-- The bytes that a turn loses: those that its connection held when it was closed because of
    an error. -/
def lostIn (t : EventLoop.Turn Unit Unit Stats) : Nat :=
  match service? t with
  | some (false, left) =>
      if t.before.data.errors < left.stats.errors then buffered left.connection else 0
  | _ => 0

/-- A turn serves its connection while that is there. -/
theorem service?_of_live {message : String} (hget : a.server.connections.get? r.fd = some c)
    (hid : c.id = r.id) (hmessage : message = s!"dispatch fd {r.fd} {r.events.inspect}") :
    service? ⟨r, a⟩ = some
      ((⟨c, (a.traced message).data, (a.traced message).host⟩ : Turn).serve r.events) := by
  subst hmessage
  show (a.server.connections.get? r.fd).bind _ = _
  rw [hget]
  exact if_pos hid

/-- A turn that is skipped loses nothing. -/
theorem lostIn_of_gone (hgone : ¬ a.server.Live r.id) : lostIn ⟨r, a⟩ = 0 := by
  have hnone : service? ⟨r, a⟩ = none := by
    show (a.server.connections.get? r.fd).bind _ = _
    cases hget : a.server.connections.get? r.fd with
    | none => rfl
    | some c =>
        have hid : c.id ≠ r.id := fun hid => hgone ⟨_, Server.mem_roster_of_get? hget, hid⟩
        exact if_neg hid
  rw [lostIn, hnone]

/-- What a call does to the table and to the counters: a client less is a closed connection,
    and a byte that came in and neither went out nor is held was lost, and with an error. -/
structure Served (size : Nat) (a : Service) (r : Ready) (b : Service) : Prop where
  accepts : b.data.accepts = a.data.accepts
  rejected : b.data.rejected = a.data.rejected
  recvs : b.data.recvs + a.data.bytesIn ≤ a.data.recvs + b.data.bytesIn
  sends : b.data.sends + a.data.bytesOut ≤ a.data.sends + b.data.bytesOut
  received : b.data.bytesIn ≤ a.data.bytesIn + size
  once : b.data.errors ≤ a.data.errors + 1
  closes : b.data.closes + b.server.connections.size = a.data.closes + a.server.connections.size
  bytes : b.data.bytesIn + a.data.bytesOut + staged a.server.connections
    = b.data.bytesOut + a.data.bytesIn + staged b.server.connections + lostIn ⟨r, a⟩
  errors : a.data.errors ≤ b.data.errors
  lossless : b.data.errors = a.data.errors → lostIn ⟨r, a⟩ = 0

/-- A connection that is kept. -/
theorem Served.of_kept {received sent : Nat} {h : Host} {t : Turn}
    (hkeys : a.server.connections.keys.Nodup)
    (hget : a.server.connections.get? r.fd = some c)
    (hbooks : Turn.Books received sent ⟨c, a.data, h⟩ t)
    (hreceived : received ≤ size) (honce : t.stats.errors ≤ a.data.errors + 1)
    (hservice : service? ⟨r, a⟩ = some (true, t))
    (hconnections : b.server.connections = a.server.connections.modify r.fd fun _ =>
      tuned t.connection)
    (hdata : b.data = t.stats) : Served size a r b := by
  have hlost : lostIn ⟨r, a⟩ = 0 := by rw [lostIn, hservice]
  have hheld : buffered t.connection + sent = buffered c + received := hbooks.held
  have hin : t.stats.bytesIn = a.data.bytesIn + received := hbooks.bytesIn
  have hout : t.stats.bytesOut = a.data.bytesOut + sent := hbooks.bytesOut
  have hbefore := staged_eq hkeys hget
  have hafter : staged b.server.connections = buffered t.connection
      + staged (a.server.connections.erase r.fd) := by
    rw [hconnections]
    exact staged_modify hkeys hget
  have hrecvs : t.stats.recvs ≤ a.data.recvs + received := hbooks.recvs
  have hsends : t.stats.sends ≤ a.data.sends + sent := hbooks.sends
  rw [← hdata] at hin hout hrecvs hsends honce
  constructor
  case accepts => exact (congrArg Stats.accepts hdata).trans hbooks.accepts
  case rejected => exact (congrArg Stats.rejected hdata).trans hbooks.rejected
  case recvs => omega
  case sends => omega
  case received => omega
  case once => exact honce
  case closes =>
    rw [hdata, hconnections, DescriptorTable.size_modify]
    exact congrArg (· + _) hbooks.closes
  case bytes => omega
  case errors => exact hdata ▸ hbooks.errors
  case lossless => exact fun _ => hlost

/-- A connection that is given up, and without an error holds nothing. -/
theorem Served.of_closed {received sent : Nat} {h : Host} {t : Turn}
    (hkeys : a.server.connections.keys.Nodup)
    (hget : a.server.connections.get? r.fd = some c)
    (hbooks : Turn.Books received sent ⟨c, a.data, h⟩ t)
    (hreceived : received ≤ size) (honce : t.stats.errors ≤ a.data.errors + 1)
    (hservice : service? ⟨r, a⟩ = some (false, t))
    (hempty : t.stats.errors = a.data.errors → buffered t.connection = 0)
    (hconnections : b.server.connections = a.server.connections.erase r.fd)
    (hdata : b.data = { t.stats with closes := t.stats.closes + 1 }) : Served size a r b := by
  have herrors : a.data.errors ≤ t.stats.errors := hbooks.errors
  have hlost : lostIn ⟨r, a⟩ = buffered t.connection := by
    rw [lostIn, hservice]
    show (if a.data.errors < t.stats.errors then _ else _) = _
    split
    · rfl
    · rw [hempty (by omega)]
  have hheld : buffered t.connection + sent = buffered c + received := hbooks.held
  have hin : t.stats.bytesIn = a.data.bytesIn + received := hbooks.bytesIn
  have hout : t.stats.bytesOut = a.data.bytesOut + sent := hbooks.bytesOut
  have hcloses : t.stats.closes = a.data.closes := hbooks.closes
  have hbefore := staged_eq hkeys hget
  have hsize := DescriptorTable.size_eq_size_erase hkeys hget
  have hrecvs : t.stats.recvs ≤ a.data.recvs + received := hbooks.recvs
  have hsends : t.stats.sends ≤ a.data.sends + sent := hbooks.sends
  constructor
  case accepts => exact (congrArg Stats.accepts hdata).trans hbooks.accepts
  case rejected => exact (congrArg Stats.rejected hdata).trans hbooks.rejected
  -- what was held and not lost went out: that is arithmetic over the books
  all_goals
    rw [hdata]
    dsimp only
  case closes =>
    rw [hconnections]
    omega
  case bytes =>
    rw [hconnections]
    omega
  case once => exact honce
  case errors => exact herrors
  case lossless => exact fun hsame => hlost.trans (hempty hsame)
  all_goals omega

/-- The call for a noted connection returns and does this to table and counters. -/
theorem Watches.serves (h : Watches size noted served a) (hr : r ∈ noted)
    (hget : a.server.connections.get? r.fd = some c) (hid : c.id = r.id) :
    ∃ b, handlers.call c r a = .ok () b ∧ Served size a r b := by
  show ∃ b, Echo.onConnection r.fd r.events (a.traced s!"dispatch fd {r.fd} {r.events.inspect}")
    = .ok () b ∧ _
  have hservice := service?_of_live hget hid rfl
  generalize s!"dispatch fd {r.fd} {r.events.inspect}" = message at hservice ⊢
  have hkeys := h.reachable.paired.keys_nodup
  have hevents : ∀ s, (a.traced message).host.kernel.stream? r.fd = some s →
      r.events.isClosed = true →
      s.fault ≠ .intact := fun s hs hclosed => (h.echoes.truthful r hr).2 c s hget hid hs hclosed
  obtain ⟨_, _, _, count, _, hcarries, hwent, honce, hfinished⟩ :=
    (h.echoes.traced message).turn_went hget hevents
  have herrors := hwent.errors
  have hkeeps := Turn.serve_keeps ⟨c, (a.traced message).data, (a.traced message).host⟩ r.events
  obtain ⟨received, sent, hreceived, hbooks⟩ :=
    Turn.serve_books (t := ⟨c, (a.traced message).data, (a.traced message).host⟩) hcarries.input
      hcarries.output
  rw [hcarries.input_capacity] at hreceived
  rcases hserve : (⟨c, (a.traced message).data, (a.traced message).host⟩ : Turn).serve r.events
    with ⟨kept, t⟩
  rw [hserve] at hbooks hkeeps hfinished hservice herrors
  have hcounted : t.stats.errors ≤ a.data.errors + 1 :=
    Nat.le_trans (Nat.le_of_eq herrors) (Nat.add_le_add_left honce _)
  cases kept with
  | true =>
      obtain ⟨polled, hcall, _⟩ := onConnection_kept (a := a.traced message) hget hserve
        h.reachable.paired.wellFormed (PollSet.mem_descriptors_of_interest (h.asks r.fd c hget))
      exact ⟨_, hcall, .of_kept hkeys hget hbooks hreceived hcounted hservice rfl rfl⟩
  | false =>
      obtain ⟨host, hcall, _⟩ := onConnection_closed (a := a.traced message) hget hserve
      refine ⟨_, hcall, .of_closed hkeys hget hbooks hreceived hcounted hservice ?_ rfl rfl⟩
      -- an error was counted, or the connection was given up for being finished
      intro hsame
      have hzero : t.stats.errors + 0 = t.stats.errors + count :=
        herrors.trans (congrArg (· + count) hsame.symm)
      exact Turn.buffered_of_finished hbooks.input hbooks.output
        (hfinished rfl (Nat.add_left_cancel hzero).symm)

/-! ## The ledger -/

/-- How far the counters can have come: an attempt or a turn counts one client or error at
    most, a counted transfer moved a byte at least, and so many bytes came in at most. -/
structure Stats.Bounded (s : Stats) (events bytes : Nat) : Prop where
  events : s.accepts + s.rejected + s.errors ≤ events
  recvs : s.recvs ≤ s.bytesIn
  sends : s.sends ≤ s.bytesOut
  received : s.bytesIn ≤ bytes

/-- Words of 64 bits hold the counters. -/
structure Stats.Fits (s : Stats) : Prop where
  accepts : s.accepts < 2 ^ 64
  rejected : s.rejected < 2 ^ 64
  recvs : s.recvs < 2 ^ 64
  sends : s.sends < 2 ^ 64
  closes : s.closes < 2 ^ 64
  bytesIn : s.bytesIn < 2 ^ 64
  bytesOut : s.bytesOut < 2 ^ 64
  errors : s.errors < 2 ^ 64

/-- More attempts, turns and bytes bound what fewer do. -/
theorem Stats.Bounded.mono {s : Stats} {events events' bytes bytes' : Nat}
    (h : s.Bounded events bytes)
    (hevents : events ≤ events') (hbytes : bytes ≤ bytes') : s.Bounded events' bytes' :=
  ⟨Nat.le_trans h.events hevents, h.recvs, h.sends, Nat.le_trans h.received hbytes⟩

/-- One event more counts one client or error, if any. -/
theorem Stats.Bounded.count {s : Stats} {events bytes accepts rejected errors : Nat}
    (h : s.Bounded events bytes)
    (hone : accepts + rejected + errors ≤ s.accepts + s.rejected + s.errors + 1) :
    Stats.Bounded { s with accepts := accepts, rejected := rejected, errors := errors }
      (events + 1) bytes :=
  ⟨Nat.le_trans hone (Nat.succ_le_succ h.events), h.recvs, h.sends, h.received⟩

/-- Where the bounds are words and nothing was closed or handed back that did not come, no
    counter ever left its word. -/
theorem Stats.Bounded.fits {s : Stats} {events bytes : Nat} (h : s.Bounded events bytes)
    (hcloses : s.closes ≤ s.accepts) (hout : s.bytesOut ≤ s.bytesIn) (hevents : events < 2 ^ 64)
    (hbytes : bytes < 2 ^ 64) : s.Fits := by
  obtain ⟨hclients, hrecvs, hsends, hreceived⟩ := h
  refine ⟨?_, ?_, ?_, ?_, ?_, ?_, ?_, ?_⟩ <;> omega

/-- The counters of a running server beside the attempts to accept and the turns of its run:
    how many clients the attempts took from the queue, how many of them failed for lack of
    memory, and how many bytes the turns lost. -/
structure Tallies (size : Nat) (noted : List Ready) (attempts : List Service)
    (turns : List (EventLoop.Turn Unit Unit Stats)) (a : Service) : Prop where
  watches : Watches size noted [] a
  bound : a.server.isBound = true
  clients : a.data.accepts = a.data.closes + a.server.connections.size
  taken : (attempts.map takenBy).sum = a.data.accepts + a.data.rejected + attempts.countP unfunded
  bytes : a.data.bytesIn = a.data.bytesOut + staged a.server.connections + (turns.map lostIn).sum
  lossless : a.data.errors = 0 → (turns.map lostIn).sum = 0
  bounded : a.data.Bounded (attempts.length + turns.length) (size * turns.length)

/-- One attempt more. -/
theorem sum_takenBy_concat (attempts : List Service) (a : Service) :
    ((attempts ++ [a]).map takenBy).sum = (attempts.map takenBy).sum + takenBy a := by
  rw [List.map_append, List.sum_append, List.map_singleton, List.sum_singleton]

theorem length_concat_add (attempts : List Service) (a : Service) (n : Nat) :
    (attempts ++ [a]).length + n = attempts.length + n + 1 := by
  rw [List.length_append, List.length_singleton, Nat.add_right_comm]

/-- One turn more. -/
theorem sum_lostIn_concat (turns : List (EventLoop.Turn Unit Unit Stats))
    (t : EventLoop.Turn Unit Unit Stats) :
    ((turns ++ [t]).map lostIn).sum = (turns.map lostIn).sum + lostIn t := by
  rw [List.map_append, List.sum_append, List.map_singleton, List.sum_singleton]

/-- One attempt more, which there was memory for unless its answer says otherwise. -/
theorem countP_unfunded {answer : Except Error Descriptor}
    (haccept : a.server.accept () a.host = (answer, s, h')) :
    (attempts ++ [a]).countP unfunded = attempts.countP unfunded + unfundedFor answer := by
  rw [List.countP_append, List.countP_singleton, unfunded, haccept, unfundedFor.eq_def]
  dsimp only
  split <;> rfl

namespace Tallies

/-- What concerns neither the connections nor the counters. -/
theorem quiet {noted' : List Ready} (h : Tallies size noted attempts turns a)
    (hwatches : Watches size noted' [] b)
    (hlistener : b.server.listener = a.server.listener)
    (hconnections : b.server.connections = a.server.connections)
    (hdata : b.data = a.data) : Tallies size noted' attempts turns b where
  watches := hwatches
  bound := by
    rw [Server.isBound, hlistener]
    exact h.bound
  clients := by
    rw [hdata, hconnections]
    exact h.clients
  taken := by
    rw [hdata]
    exact h.taken
  bytes := by
    rw [hdata, hconnections]
    exact h.bytes
  lossless := by
    rw [hdata]
    exact h.lossless
  bounded := by
    rw [hdata]
    exact h.bounded

theorem of_subset {noted' : List Ready} (h : Tallies size noted attempts turns a)
    (hnoted : noted' ⊆ noted) :
    Tallies size noted' attempts turns a :=
  h.quiet (h.watches.of_subset hnoted (List.Subset.refl _)) rfl rfl rfl

theorem log (h : Tallies size noted attempts turns a) (level : Log.Level) (message : String) :
    Tallies size noted attempts turns { a with host := a.host.log level message } :=
  h.quiet (h.watches.log level message) rfl rfl rfl

theorem logAll (h : Tallies size noted attempts turns a) (notes : List Log.Note) :
    Tallies size noted attempts turns { a with host := a.host.logAll notes } := by
  induction notes generalizing a with
  | nil => exact h
  | cons note rest ih => exact ih (h.log note.level note.message)

theorem noting (h : Tallies size noted attempts turns a) (ready : List Ready) :
    Tallies size noted attempts turns (a.noting ready) :=
  h.quiet (h.watches.noting ready) rfl rfl rfl

/-! ## Attempts -/

/-- What an attempt took can be told from its answer. -/
theorem takenBy_eq (h : Tallies size noted attempts turns a) :
    takenBy a = takenFor (a.server.accept () a.host).1 := by
  obtain ⟨l, hl⟩ := Option.isSome_iff_exists.mp h.bound
  exact h.watches.takenBy_eq hl

/-- One attempt more takes what its answer says. -/
theorem sum_takenBy (h : Tallies size noted attempts turns a) {answer : Except Error Descriptor}
    (haccept : a.server.accept () a.host = (answer, s, h')) :
    ((attempts ++ [a]).map takenBy).sum = (attempts.map takenBy).sum + takenFor answer := by
  rw [sum_takenBy_concat, h.takenBy_eq, haccept]

/-- An attempt that lets a client in counts one accept. -/
theorem admitted (h : Tallies size noted attempts turns a)
    (haccept : a.server.accept () a.host = (.ok fd, s, h')) :
    Tallies size noted (attempts ++ [a]) turns
      ⟨s.onConnection fd fun c => { c with status := watchMask }, h',
      { a.data with accepts := a.data.accepts + 1 }⟩ := by
  obtain ⟨_, _, _, hl, _, hadmits, _⟩ := Server.admits_of_accept haccept
  obtain ⟨peer, hentries⟩ := hadmits.entries
  have hclients := h.clients
  have htaken := h.taken
  have hbytes := h.bytes
  have hsize : (s.connections.modify fd fun c => { c with status := watchMask }).size
    = a.server.connections.size + 1 := by
    rw [DescriptorTable.size_modify, DescriptorTable.size, hentries, List.length_append]
    rfl
  have hstaged : staged (s.connections.modify fd fun c => { c with status := watchMask })
      = staged a.server.connections := by
    -- a newcomer has nothing in its buffers
    have hsame : ∀ c : Connection Unit, buffered { c with status := watchMask } = buffered c :=
      fun _ => rfl
    exact (staged_modify_of_same hsame).trans (staged_append hentries)
  refine ⟨(h.watches.admitted haccept).count _, ?_, ?_, ?_, ?_, h.lossless, ?_⟩
  · show s.listener.isSome = true
    rw [hadmits.listener, hl]
    rfl
  · show a.data.accepts + 1 = a.data.closes + (s.connections.modify fd _).size
    rw [hsize]
    omega
  · rw [h.sum_takenBy haccept, countP_unfunded haccept]
    show (attempts.map takenBy).sum + 1 = a.data.accepts + 1 + a.data.rejected
      + attempts.countP unfunded
    omega
  · show a.data.bytesIn = a.data.bytesOut + staged (s.connections.modify fd _) + _
    rw [hstaged]
    exact hbytes
  · rw [length_concat_add]
    exact h.bounded.count (by omega)

/-- One that turns a client away for want of a slot counts one rejection. -/
theorem rejected {slots : Nat} (h : Tallies size noted attempts turns a)
    (haccept : a.server.accept () a.host = (.error (.capacityExceeded slots), a.server, h')) :
    Tallies size noted (attempts ++ [a]) turns ⟨a.server, h',
      { a.data with rejected := a.data.rejected + 1 }⟩ where
  watches := (h.watches.refused haccept).count _
  bound := h.bound
  clients := h.clients
  taken := by
    have htaken := h.taken
    rw [h.sum_takenBy haccept, countP_unfunded haccept]
    show (attempts.map takenBy).sum + 1 = a.data.accepts + (a.data.rejected + 1)
      + attempts.countP unfunded
    omega
  bytes := h.bytes
  lossless := h.lossless
  bounded := by
    rw [length_concat_add]
    exact h.bounded.count (by omega)

/-- Of the other failures only that for lack of memory took a client. -/
theorem refused {e : Error} (h : Tallies size noted attempts turns a)
    (haccept : a.server.accept () a.host = (.error e, a.server, h'))
    (hother : ∀ slots, e ≠ .capacityExceeded slots) :
    Tallies size noted (attempts ++ [a]) turns ⟨a.server, h',
      if e.isWouldBlock then a.data else { a.data with errors := a.data.errors + 1 }⟩ := by
  have htaken := h.taken
  have hsum : ((attempts ++ [a]).map takenBy).sum = a.data.accepts + a.data.rejected
      + (attempts ++ [a]).countP unfunded := by
    rw [h.sum_takenBy haccept, countP_unfunded haccept, htaken, Nat.add_assoc]
    cases e with
    | capacityExceeded slots => exact absurd rfl (hother slots)
    | _ => rfl
  -- an attempt that would have waited is no error, any other is one
  refine ⟨(h.watches.refused haccept).count _, h.bound, ?_, ?_, ?_, ?_, ?_⟩
  · split <;> exact h.clients
  · split <;> exact hsum
  · split <;> exact h.bytes
  · split
    · exact h.lossless
    · exact fun hnone => absurd hnone (Nat.succ_ne_zero _)
  · rw [length_concat_add]
    split
    · exact h.bounded.mono (Nat.le_succ _) (Nat.le_refl _)
    · exact h.bounded.count (by omega)

/-! ## Turns -/

/-- Whoever is gone loses nothing more. -/
theorem skipped (h : Tallies size noted attempts turns a) (hgone : ¬ a.server.Live r.id) :
    Tallies size noted attempts (turns ++ [⟨r, a⟩]) a := by
  have hsum := sum_lostIn_concat turns ⟨r, a⟩
  rw [lostIn_of_gone hgone, Nat.add_zero] at hsum
  refine ⟨h.watches, h.bound, h.clients, h.taken, ?_, ?_, ?_⟩
  · rw [hsum]
    exact h.bytes
  · rw [hsum]
    exact h.lossless
  · rw [List.length_append]
    exact h.bounded.mono (Nat.le_succ _) (Nat.mul_le_mul_left _ (Nat.le_succ _))

/-- A call adds its turn: what came in went out, is held, or was lost with it. -/
theorem call (h : Tallies size noted attempts turns a) (hr : r ∈ noted)
    (hget : a.server.connections.get? r.fd = some c) (hid : c.id = r.id) :
    ∃ b, handlers.call c r a = .ok () b ∧ Tallies size noted attempts (turns ++ [⟨r, a⟩]) b := by
  obtain ⟨b, hcall, hserved⟩ := h.watches.serves hr hget hid
  obtain ⟨_, hok, hcalls, hwatches⟩ := h.watches.call hr hget hid
  cases hcall.symm.trans hok
  have hclients := h.clients
  have hbytes := h.bytes
  refine ⟨b, hcall, hwatches.of_subset (List.Subset.refl _) (List.nil_subset _), ?_, ?_, ?_, ?_, ?_,
    ?_⟩
  · rw [Server.isBound, hcalls.listener]
    exact h.bound
  · rw [hserved.accepts, hclients, hserved.closes]
  · rw [hserved.accepts, hserved.rejected]
    exact h.taken
  -- the turn adds what its service received, less what went out, stays, or was lost
  · have hchange := hserved.bytes
    rw [sum_lostIn_concat]
    omega
  · intro hnone
    have hbefore : a.data.errors = 0 := Nat.le_zero.mp (hnone ▸ hserved.errors)
    rw [sum_lostIn_concat, h.lossless hbefore, hserved.lossless (hnone.trans hbefore.symm)]
  -- one turn more counts one error at most and receives one buffer at most
  · obtain ⟨hevents, hrecvs, hsends, hreceived⟩ := h.bounded
    have honce := hserved.once
    have hmore := hserved.received
    have hrecvs' := hserved.recvs
    have hsends' := hserved.sends
    rw [List.length_append, List.length_singleton, Nat.mul_succ]
    refine ⟨?_, by omega, by omega, by omega⟩
    rw [hserved.accepts, hserved.rejected]
    omega

end Tallies

/-! ## Rounds -/

/-- By induction the attempts of one call of the listener are counted. -/
theorem Attempts.tallies {more : List Service} (h : Attempts limit a more b)
    (ha : Tallies size noted attempts turns a) : Tallies size noted (attempts ++ more) turns b := by
  -- on the attempts, with the tallies of those before
  induction h generalizing attempts with
  | spent a =>
      rw [List.append_nil]
      exact ha
  | admitted haccept _ ih =>
      rw [List.append_cons]
      exact ih (ha.admitted haccept)
  | rejected haccept _ ih =>
      rw [List.append_cons]
      exact ih (ha.rejected haccept)
  | refused _ notes haccept hother => exact (ha.refused haccept hother).logAll notes

theorem Accepting.tallies {more : List Service} (h : Accepting a more b)
    (ha : Tallies size noted attempts turns a) : Tallies size noted (attempts ++ more) turns b := by
  cases h with
  | idle hreadable hcall =>
      rw [List.append_nil]
      obtain hsame | ⟨message, hsame⟩ := callListener_of_unreadable hreadable
      · cases hcall.symm.trans hsame
        exact ha
      · cases hcall.symm.trans hsame
        exact ha.log .trace message
  | taking _ _ hattempts => exact hattempts.tallies (ha.log .trace _)

/-- By induction so are the turns of a round. -/
theorem Sweep.tallies {others : List (EventLoop.Turn Unit Unit Stats)}
    {outcome : Outcome Unit Unit Stats Unit}
    (h : Sweep handlers rest a others outcome) (hrest : rest ⊆ noted)
    (ha : Tallies size noted attempts turns a) :
    ∃ b, outcome = .ok () b ∧ Tallies size noted attempts (turns ++ others) b := by
  -- on the sweep: a turn that is skipped adds nothing
  induction h generalizing turns with
  | done a =>
      rw [List.append_nil]
      exact ⟨a, rfl, ha⟩
  | skipped hgone _ ih =>
      rw [List.append_cons]
      exact ih (List.subset_of_cons_subset hrest) (ha.skipped hgone)
  | called hget hid hcall _ ih =>
      obtain ⟨_, hok, hb⟩ := ha.call (hrest List.mem_cons_self) hget hid
      cases hcall.symm.trans hok
      rw [List.append_cons]
      exact ih (List.subset_of_cons_subset hrest) hb
  | panicked hget hid hcall =>
      obtain ⟨_, hok, _⟩ := ha.call (hrest List.mem_cons_self) hget hid
      cases hcall.symm.trans hok

/-- The next round, in which something is ready: the attempts that the listener's handler makes
    in it, and its turns. -/
def RoundRecord (a : Service) (attempts : List Service)
    (turns : List (EventLoop.Turn Unit Unit Stats)) : Prop :=
  ∃ n s h noted listened, a.server.isBound = true ∧ a.server.wait a.host = (.ok n, s, h) ∧ 0 < n
    ∧ List.Forall₂ s.Notes s.readyEntries noted
    ∧ Accepting (({ a with server := s, host := h } : Service).noting noted) attempts listened
    ∧ Round handlers n noted { a with server := s, host := h } turns (Server.poll handlers a)

/-- Only a bound server has rounds. -/
theorem RoundRecord.bound (h : RoundRecord a attempts turns) : a.server.isBound = true := by
  obtain ⟨_, _, _, _, _, hbound, _⟩ := h
  exact hbound

/-- A round adds its attempts and its turns. -/
theorem RoundRecord.tallies {more : List Service} {others : List (EventLoop.Turn Unit Unit Stats)}
    (h : RoundRecord a more others) (ha : Tallies size [] attempts turns a) :
    Tallies size [] (attempts ++ more) (turns ++ others) (after (Server.poll handlers) a) := by
  obtain ⟨n, s, h', noted, listened, _, hwait, _, hnoted, haccepting, hround⟩ := h
  have hwoken : Tallies size noted attempts turns { a with server := s, host := h' } := by
    have hwatches := ha.watches.note hwait hnoted
    obtain ⟨polled, rfl, _⟩ := Server.wait_cases hwait
    exact ha.quiet hwatches rfl rfl rfl
  have hlistened := haccepting.tallies (hwoken.noting noted)
  generalize hpolled : Server.poll handlers a = outcome at hround
  cases hround with
  | stopped hstopped => cases hstopped.symm.trans haccepting.call
  | panicked hfirst hsweep =>
      cases hfirst.symm.trans haccepting.call
      obtain ⟨_, hok, _⟩ := Sweep.tallies hsweep (List.Subset.refl _) (hlistened.noting [])
      cases hok
  | finished hfirst hsweep =>
      cases hfirst.symm.trans haccepting.call
      obtain ⟨_, hok, hswept⟩ := Sweep.tallies hsweep (List.Subset.refl _) (hlistened.noting [])
      cases hok
      rw [after_eq_of_ok hpolled]
      exact (hswept.noting noted).of_subset (List.nil_subset _)

/-! ## Runs -/

/-- A run of an echo server that led to a system, as `Running`, with the attempts to accept and
    the turns of all its rounds, the first ones first. -/
inductive Recorded (size : Nat) :
    List Service → List (EventLoop.Turn Unit Unit Stats) → Service → Prop
  | start {address : String} {config : Config} {h h' : Host} {s : Server Unit Unit}
      (hsize : config.bufferSize = size) (hfiles : h.kernel.files = [])
      (hstreams : h.kernel.streams = [])
      (hbind : Server.bind address () config h = (.ok s, h')) : Recorded size [] [] ⟨s, h', .zero⟩
  | round {attempts more : List Service} {turns others : List (EventLoop.Turn Unit Unit Stats)}
      {a : Service}
      (h : Recorded size attempts turns a) (hround : RoundRecord a more others) :
      Recorded size (attempts ++ more) (turns ++ others) (after (Server.poll handlers) a)
  /-- What happens is not a round in which something is ready. -/
  | other {attempts : List Service} {turns : List (EventLoop.Turn Unit Unit Stats)} {a b : Service}
      (h : Recorded size attempts turns a) (hnext : Happens a b)
      (hother : ∀ more others, RoundRecord a more others → b ≠ after (Server.poll handlers) a) :
      Recorded size attempts turns b

/-- Every run has a record of its attempts and turns. -/
theorem Running.recorded (h : Running size a) :
    ∃ attempts turns, Recorded size attempts turns a := by
  -- on the run: a poll that is a round is recorded as one
  induction h with
  | start hsize hfiles hstreams hbind => exact ⟨[], [], .start hsize hfiles hstreams hbind⟩
  | @next a b _ hnext ih =>
      obtain ⟨attempts, turns, hrecorded⟩ := ih
      by_cases hround : ∃ more others, RoundRecord a more others
        ∧ b = after (Server.poll handlers) a
      · obtain ⟨more, others, hround, rfl⟩ := hround
        exact ⟨attempts ++ more, turns ++ others, hrecorded.round hround⟩
      · exact ⟨attempts, turns,
          hrecorded.other hnext fun more others hmore hb => hround ⟨more, others, hmore, hb⟩⟩

theorem isBound_cleanup (s : Server Unit Unit) (h : Host) : (s.cleanup h).1.isBound = false := by
  rw [Server.cleanup_server]
  rfl

/-- Nothing that happens opens a listener again. -/
theorem Happens.bound_of_bound (h : Happens a b) (hbound : b.server.isBound = true) :
    a.server.isBound = true := by
  cases h with
  | connect _ => exact hbound
  | client _ => exact hbound
  | host _ _ => exact hbound
  | timeout _ => exact hbound
  | round =>
      cases hbefore : a.server.isBound with
      | true => rfl
      | false =>
          rw [after_eq_of_ok (Server.poll_of_unbound hbefore)] at hbound
          exact hbefore.symm.trans hbound
  | cleanup => cases (isBound_cleanup a.server a.host).symm.trans hbound

/-- Where nothing is ready, a round changes no counter and no connection. -/
theorem Tallies.idle (h : Tallies size [] attempts turns a)
    (hidle : ∀ more others, ¬ RoundRecord a more others) :
    Tallies size [] attempts turns (after (Server.poll handlers) a) := by
  have hwatches := h.watches.happens (.round a)
  rcases hwait : a.server.wait a.host with ⟨answer, s, h'⟩
  obtain hwaited | ⟨n, noted, turns, rfl, hn, hnoted, hround⟩ :=
    h.watches.reachable.poll_cases h.bound handlers_operate hwait
  · rw [after_eq_of_ok hwaited] at hwatches ⊢
    obtain ⟨polled, rfl, _⟩ := Server.wait_cases hwait
    exact h.quiet hwatches rfl rfl rfl
  · obtain ⟨more, listened, haccepting⟩ :=
      exists_accepting (({ a with server := s, host := h' } : Service).noting noted)
    exact absurd ⟨n, s, h', noted, listened, h.bound, hwait, hn, hnoted, haccepting, hround⟩
      (hidle more _)

/-- The counters of a run are the tallies of its record, as long as the server is bound. -/
theorem Recorded.tallies (h : Recorded size attempts turns a) (hbound : a.server.isBound = true) :
    Tallies size [] attempts turns a := by
  -- on the record; a round adds to it, and nothing else is counted
  induction h with
  | start hsize hfiles hstreams hbind =>
      have hfresh := (Server.bind_fresh hbind).connections
      have hrun : Running size _ := .start hsize hfiles hstreams hbind
      have hnothing : Stats.zero.Bounded 0 (size * 0) :=
        ⟨Nat.le_refl 0, Nat.le_refl 0, Nat.le_refl 0, Nat.zero_le _⟩
      refine ⟨hrun.watches, hbound, ?_, rfl, ?_, fun _ => rfl, hnothing⟩
      · show 0 = 0 + DescriptorTable.size _
        rw [hfresh]
        rfl
      · show 0 = 0 + staged _ + 0
        rw [hfresh]
        rfl
  | round _ hround ih => exact hround.tallies (ih hround.bound)
  | other _ hnext hother ih =>
      have ha := ih (hnext.bound_of_bound hbound)
      have hwatches := ha.watches.happens hnext
      -- a poll that is no recorded round found nobody, and a cleanup ends the server
      cases hnext with
      | connect _ => exact ha.quiet hwatches rfl rfl rfl
      | client _ => exact ha.quiet hwatches rfl rfl rfl
      | host _ _ => exact ha.quiet hwatches rfl rfl rfl
      | timeout _ => exact ha.quiet hwatches rfl rfl rfl
      | round => exact ha.idle fun more others hround => hother more others hround rfl
      | cleanup => cases (isBound_cleanup _ _).symm.trans hbound

/-- In every run, with any clients, limits and failures, and as long as the server is not
    cleaned up: the clients accepted are those that were closed and those that are live; the
    clients taken from the queue are those accepted, those rejected and those who came when
    there was no memory for their buffers; and the bytes that came in are those that went
    out, those in the buffers of live connections, and those that were held when a connection
    was closed because of an error. Without an error none were. No counter leaves its word in
    a run with fewer than 2 ^ 64 attempts and turns, and with room for fewer bytes in them. -/
theorem running_tallies (h : Running size a) (hbound : a.server.isBound = true) :
    (a.data.closes ≤ a.data.accepts ∧ a.data.accepts - a.data.closes = a.server.connections.size)
      ∧ (∃ attempts turns, Recorded size attempts turns a)
      ∧ (∀ attempts turns, Recorded size attempts turns a →
          (attempts.map takenBy).sum = a.data.accepts + a.data.rejected + attempts.countP unfunded
            ∧ a.data.bytesIn = a.data.bytesOut + staged a.server.connections
              + (turns.map lostIn).sum
            ∧ (attempts.length + turns.length < 2 ^ 64 → size * turns.length < 2 ^ 64 →
              a.data.Fits))
      ∧ a.data.bytesOut ≤ a.data.bytesIn
      ∧ (a.data.errors = 0 → a.data.bytesIn - a.data.bytesOut = staged a.server.connections) := by
  obtain ⟨attempts, turns, hrecorded⟩ := h.recorded
  have htallies := hrecorded.tallies hbound
  have hclients := htallies.clients
  have hbytes := htallies.bytes
  refine ⟨⟨by omega, by omega⟩, ⟨attempts, turns, hrecorded⟩, ?_, by omega, ?_⟩
  · intro attempts turns hrecorded
    have htallies := hrecorded.tallies hbound
    have hclients := htallies.clients
    have hbytes := htallies.bytes
    exact ⟨htallies.taken, htallies.bytes, htallies.bounded.fits (by omega) (by omega)⟩
  · intro hnone
    have hlossless := htallies.lossless hnone
    omega

/-! ## A client that breaks off -/

/-- A client that got three bytes back and made no more room breaks off while two more
    clients come, and there is a round. -/
def Loopback.brokenOff? : Option Service :=
  Loopback.narrow?.map fun a => rounded (acted 0 (·.peerReset) (rounded a).visit.visit)

theorem Loopback.brokenOff_running (h : Loopback.brokenOff? = some a) : Running 4 a := by
  obtain ⟨narrow, hnarrow, rfl⟩ := Option.map_eq_some_iff.mp h
  have hsent := (Loopback.narrow_running hnarrow).next (.round _)
  have hvisits : Running 4 (rounded narrow).visit.visit :=
    (hsent.next (.connect _ _)).next (.connect _ _)
  exact (hvisits.next (.client _ (f := (·.peerReset)) fun s _ => .reset s)).next (.round _)

/-- One of the newcomers is let in and one turned away. Of the eight bytes that were taken
    from the client that broke off the three that its window let through count as handed
    back, and the other five are lost. -/
theorem running_tallies_brokenOff : ∃ (app : Service) (attempts : List Service)
    (turns : List (EventLoop.Turn Unit Unit Stats)),
    Loopback.brokenOff? = some app ∧ Recorded 4 attempts turns app
      ∧ app.data = ⟨2, 1, 2, 1, 1, 8, 3, 1⟩ ∧ app.server.connections.size = 1
      ∧ (attempts.map takenBy).sum = 3 + attempts.countP unfunded ∧ (turns.map lostIn).sum = 5 := by
  have hcounters :
      Loopback.brokenOff?.map (fun a => (a.server.isBound, staged a.server.connections, a.data))
      = some (true, 0, ⟨2, 1, 2, 1, 1, 8, 3, 1⟩) := by
    decide +kernel
  obtain ⟨app, happ, hparts⟩ := Option.map_eq_some_iff.mp hcounters
  simp only [Prod.mk.injEq] at hparts
  obtain ⟨hbound, hstaged, hdata⟩ := hparts
  obtain ⟨⟨_, hlive⟩, ⟨attempts, turns, hrecorded⟩, hall, _⟩ :=
    running_tallies (Loopback.brokenOff_running happ) hbound
  obtain ⟨htaken, hbytes, _⟩ := hall attempts turns hrecorded
  rw [hdata] at hlive htaken hbytes
  dsimp only at hlive htaken hbytes
  exact ⟨app, attempts, turns, happ, hrecorded, hdata, by omega, by omega, by omega⟩

end EventLoop.Echo
