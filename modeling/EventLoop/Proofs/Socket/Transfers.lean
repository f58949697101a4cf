import EventLoop.Connection
import EventLoop.Proofs.Kernel.Holders
import EventLoop.Proofs.Kernel.Ledger
import EventLoop.Proofs.RingBuffer.Queue

/-! # What a connection does on its stream

    A socket is an end of one stream, and its calls change nothing in the system but this
    stream (`Host.On`).

    * `Connection.flush_on`: what leaves the front of the output is handed over.
    * `Connection.receive_on`: what is taken from the front of what arrived comes to the
      back of the input (`Stream.Took`), and an end of the stream is told only where
      nothing is left (`Stream.Ended`).

    A receive may need two calls of the system. The induction is on the calls. -/

namespace EventLoop

/-- In the system only one stream has changed. -/
def Host.On (h : Host) (i : Nat) (s : Stream) (h' : Host) : Prop :=
  h'.kernel = h.kernel.setStream i s

/-- The descriptor is an end of the stream. -/
structure Host.Joins (h : Host) (fd : Descriptor) (i : Nat) (s : Stream) : Prop where
  index : h.kernel.index? fd = some i
  stream : h.kernel.streams[i]? = some s

namespace Host

variable {h h' h'' : Host} {fd : Descriptor} {i : Nat} {s s' s'' : Stream}

theorem On.trans (hfirst : h.On i s h') (hsecond : h'.On i s' h'') : h.On i s' h'' := by
  rw [On, hsecond, hfirst, Kernel.setStream_setStream]

theorem Joins.on (hjoins : h.Joins fd i s) : h.On i s h :=
  (Kernel.setStream_eq_self hjoins.stream).symm

/-- A descriptor keeps its stream through the stream's changes. -/
theorem Joins.after (hjoins : h.Joins fd i s) (hon : h.On i s' h') : h'.Joins fd i s' := by
  refine ⟨?_, ?_⟩
  · rw [hon]
    exact hjoins.index
  · rw [hon]
    exact Kernel.streams_setStream_self (List.getElem?_eq_some_iff.mp hjoins.stream).1

/-- A send on the descriptor is a send on the stream. -/
theorem Joins.send (hjoins : h.Joins fd i s) (data : Bytes) :
    h.kernel.send fd data = ((s.send data).1, h.kernel.setStream i (s.send data).2) := by
  rw [Kernel.send, Kernel.index?_eq_some_iff.mp hjoins.index]
  simp only [hjoins.stream]
  rfl

/-- A receive on the descriptor is a receive on the stream. -/
theorem Joins.recv (hjoins : h.Joins fd i s) (room : Nat) :
    h.kernel.recv fd room = ((s.receive room).1, h.kernel.setStream i (s.receive room).2) := by
  rw [Kernel.recv, Kernel.index?_eq_some_iff.mp hjoins.index]
  simp only [hjoins.stream]
  rfl

/-- What it has become is determined. -/
theorem On.unique (hjoins : h.Joins fd i s) (hon : h.On i s' h') (hon' : h.On i s'' h') :
    s' = s'' :=
  Option.some.inj ((hjoins.after hon).stream.symm.trans (hjoins.after hon').stream)

end Host

/-! ## Taking from a stream -/

/-- The bytes that a receive brought. -/
def delivered {ε : Type} : Except ε Arrival → Bytes
  | .ok (.bytes data) => data
  | _ => []

namespace Stream

variable {s s' s'' : Stream} {data more : Bytes}

/-- This process took some bytes, the next ones of those that arrived. -/
structure Took (s : Stream) (data : Bytes) (s' : Stream) : Prop where
  served : Served s s'
  handed : s'.handed = s.handed
  taken : s'.arrived.take s'.taken = s.arrived.take s.taken ++ data
  /-- A failure that was told stays told. -/
  spent : s.fault = .spent → s'.fault = .spent

/-- Nothing is left to take, and nothing more will come. -/
def Ended (s : Stream) : Prop := s.unread = [] ∧ (s.fault = .intact → s.peerEnd ≠ .sending)

theorem Took.refl (s : Stream) : s.Took [] s := ⟨.refl s, rfl, (List.append_nil _).symm, id⟩

/-- Taking twice is taking both, one after the other. -/
theorem Took.trans (h : s.Took data s') (h' : s'.Took more s'') : s.Took (data ++ more) s'' where
  served := h.served.trans h'.served
  handed := h'.handed.trans h.handed
  taken := by rw [h'.taken, h.taken, List.append_assoc]
  spent := fun hspent => h'.spent (h.spent hspent)

/-- Whoever takes a byte has taken more. -/
theorem Took.taken_lt (h : s.Took data s') (hle : s.taken ≤ s.arrived.length) (hdata : data ≠ []) :
    s.taken < s'.taken := by
  have hlength := congrArg List.length h.taken
  have hpos := List.length_pos_iff.mpr hdata
  rw [List.length_append, List.length_take, List.length_take] at hlength
  omega

/-- What a receive brings was taken from the stream, in order. -/
theorem Delivers.took {r : Except Errno Arrival} (h : s.Delivers r s') :
    s.Took (delivered r) s' := by
  refine ⟨h.served, ?_, ?_, ?_⟩
  · cases h <;> rfl
  · cases h with
    | @bytes data rest _ hunread =>
        -- what was delivered is the front of what was unread
        show s.arrived.take (s.taken + data.length) = s.arrived.take s.taken ++ data
        rw [List.take_add]
        congr 1
        show s.unread.take data.length = data
        rw [hunread, List.take_left]
    | wouldBlock _ _ _ => exact (List.append_nil _).symm
    | closed _ _ => exact (List.append_nil _).symm
    | failed _ _ => exact (List.append_nil _).symm
  · intro hspent
    cases h with
    | failed _ _ => rfl
    | _ => exact hspent

/-- A receive answers that the stream is closed only at its end. -/
theorem Delivers.ended {r : Except Errno Arrival} (h : s.Delivers r s')
    (hclosed : r = .ok .closed) :
    s'.Ended := by
  cases h with
  | closed hunread hpeer => exact ⟨hunread, hpeer⟩
  | _ => cases hclosed

/-- Where something is left, a receive brings some of it. -/
theorem Delivers.of_unread {r : Except Errno Arrival} (h : s.Delivers r s')
    (hunread : s.unread ≠ []) :
    delivered r ≠ [] := by
  cases h with
  | bytes hne _ => exact hne
  | wouldBlock hnothing _ _ => exact absurd hnothing hunread
  | closed hnothing _ => exact absurd hnothing hunread
  | failed hnothing _ => exact absurd hnothing hunread

/-- Where nothing will come any more, a receive tells so or fails. -/
theorem Delivers.of_ended {r : Except Errno Arrival} (h : s.Delivers r s') (hended : s.Ended) :
    r = .ok .closed ∨ r = .error .connectionReset := by
  cases h with
  | bytes hne hunread =>
      rw [hended.1] at hunread
      exact absurd (List.append_eq_nil_iff.mp hunread.symm).1 hne
  | wouldBlock _ hfault hpeer => exact absurd hpeer (hended.2 hfault)
  | closed _ _ => exact .inl rfl
  | failed _ _ => exact .inr rfl

end Stream

/-! ## Calls of the system -/

namespace Socket

variable {socket : Socket} {h : Host} {i : Nat} {s : Stream}

/-- A send hands over what it says it took, from the front; nothing where it fails. While
    the window is open something is taken, and after an abrupt end that was told a send
    fails. -/
theorem send_on (hjoins : h.Joins socket.fd i s) (htcp : s.family = .tcp) (data : Bytes) :
    ∃ r s' h' count, socket.send data h = (r, h') ∧ h.On i s' h' ∧ s.Served s' ∧ s'.taken = s.taken
      ∧ s'.handed = s.handed ++ data.take count
      ∧ (∀ n, r = .ok n → n = count) ∧ (∀ e, r = .error e → count = 0)
      ∧ (s.fault = .intact → s.stalled = false → data ≠ [] → 0 < (data.take count).length)
      ∧ (s.fault = .spent → ∃ e, r = .error e) := by
  have haccepts := Stream.send_accepts htcp data
  have hserved := haccepts.served
  rw [send, hjoins.send]
  generalize (s.send data).1 = r, (s.send data).2 = s' at haccepts hserved ⊢
  -- how the stream took the data: a part of it, nothing, or with an error
  cases haccepts with
  | taken hfault hopen =>
      refine ⟨_, _, _, s.admits data.length, rfl, rfl, hserved, rfl, rfl, ?_, ?_, ?_, ?_⟩
      · exact fun n hn => (Except.ok.inj hn).symm
      · exact fun e he => by cases he
      · intro _ _ hdata
        rw [List.length_take, Nat.min_eq_left (s.admits_le _)]
        exact s.admits_pos hopen (List.length_pos_iff.mpr hdata)
      · exact fun hspent => by cases hfault.symm.trans hspent
  | stalled hfault hstalled =>
      refine ⟨_, _, _, 0, rfl, rfl, hserved, rfl, (List.append_nil _).symm, ?_, fun _ _ => rfl, ?_,
        ?_⟩
      · exact fun n hn => (Except.ok.inj hn).symm
      · exact fun _ hreads => by cases hstalled.symm.trans hreads
      · exact fun hspent => by cases hfault.symm.trans hspent
  | @failed errno hfault =>
      have hpending : s.fault = .intact → s.stalled = false → data ≠ [] →
          0 < (data.take 0).length :=
        fun hintact => by cases hfault.symm.trans hintact
      have hunspent : ∀ r : Except Error Nat, s.fault = .spent → ∃ e, r = .error e :=
        fun _ hspent => by cases hfault.symm.trans hspent
      dsimp only
      -- a pending error that only says to wait is no failure of the send
      by_cases hagain : errno = .again
      · rw [if_pos hagain]
        refine ⟨_, _, _, 0, rfl, rfl, hserved, rfl, (List.append_nil _).symm, ?_, fun _ _ => rfl,
          hpending, hunspent _⟩
        exact fun n hn => (Except.ok.inj hn).symm
      · rw [if_neg hagain]
        refine ⟨_, _, _, 0, rfl, rfl, hserved, rfl, (List.append_nil _).symm, ?_, fun _ _ => rfl,
          hpending, hunspent _⟩
        exact fun n hn => by cases hn
  | broken hfault =>
      refine ⟨_, _, _, 0, rfl, rfl, hserved, rfl, (List.append_nil _).symm, ?_, fun _ _ => rfl, ?_,
        fun _ => ⟨_, rfl⟩⟩
      · exact fun n hn => by cases hn
      · exact fun hintact => by cases hfault.symm.trans hintact

/-- What a receive of a socket is to its stream: it takes what it brings, brings something
    if there is something, and says closed at the end only. -/
theorem recv_on (hjoins : h.Joins socket.fd i s) {room : Nat} (hroom : 0 < room) :
    ∃ r s' h', socket.recv room h = (r, h') ∧ h.On i s' h' ∧ s.Took (delivered r) s'
      ∧ (r = .ok .closed → s'.Ended) ∧ (s.unread ≠ [] → delivered r ≠ [])
      ∧ (s.Ended → r = .ok .closed ∨ ∃ e, r = .error e) := by
  have hdelivers := s.receive_delivers hroom
  have htook := hdelivers.took
  have hended := hdelivers.ended
  have hunread := hdelivers.of_unread
  have hover := hdelivers.of_ended
  rw [recv, hjoins.recv]
  rcases hresult : s.receive room with ⟨e | arrival, s'⟩
  · rw [hresult] at htook hunread hover
    dsimp only
    -- what the system reports as nothing yet is no failure
    by_cases hagain : e = .again
    · rw [if_pos hagain]
      refine ⟨_, _, _, rfl, rfl, htook, (fun hclosed => by cases hclosed), hunread, fun hend => ?_⟩
      obtain hclosed | hreset := hover hend
      · cases hclosed
      · cases hagain.symm.trans (Except.error.inj hreset)
    · rw [if_neg hagain]
      exact ⟨_, _, _, rfl, rfl, htook, (fun hclosed => by cases hclosed), hunread,
        fun _ => .inr ⟨_, rfl⟩⟩
  · rw [hresult] at htook hended hunread hover
    refine ⟨_, _, _, rfl, rfl, ?_, ?_, ?_, ?_⟩
    · cases arrival <;> exact htook
    · exact fun hclosed => hended (congrArg Except.ok (Except.ok.inj hclosed))
    · cases arrival <;> exact hunread
    · intro hend
      obtain hclosed | hreset := hover hend
      · exact .inl (congrArg Except.ok (Except.ok.inj hclosed))
      · cases hreset

/-- A socket takes no more than it is given. -/
theorem send_le (socket : Socket) (data : Bytes) (h : Host) (n : Nat) (h' : Host)
    (hsend : socket.send data h = (.ok n, h')) : n ≤ data.length := by
  have hkernel : ∀ m, (h.kernel.send socket.fd data).1 = .ok m → m ≤ data.length := by
    intro m hm
    rw [Kernel.send] at hm
    split at hm
    · split at hm
      · exact Stream.send_le hm
      · cases hm
    · cases hm
  rw [send] at hsend
  rcases hresult : h.kernel.send socket.fd data with ⟨e | m, k⟩
  · simp only [hresult] at hsend
    by_cases hagain : e = .again
    · rw [if_pos hagain] at hsend
      cases hsend
      exact Nat.zero_le _
    · rw [if_neg hagain] at hsend
      cases hsend
  · simp only [hresult] at hsend
    cases hsend
    exact hkernel n (by rw [hresult])

theorem recv_le (socket : Socket) (room : Nat) (h : Host) (data : Bytes) (h' : Host)
    (hrecv : socket.recv room h = (.ok (.bytes data), h')) : data.length ≤ room := by
  have hkernel : (h.kernel.recv socket.fd room).1 = .ok (.bytes data) → data.length ≤ room := by
    intro hm
    rw [Kernel.recv] at hm
    split at hm
    · split at hm
      · exact Stream.receive_le hm
      · cases hm
    · cases hm
  rw [recv] at hrecv
  rcases hresult : h.kernel.recv socket.fd room with ⟨e | arrival, k⟩
  · simp only [hresult] at hrecv
    by_cases hagain : e = .again
    · rw [if_pos hagain] at hrecv
      cases hrecv
    · rw [if_neg hagain] at hrecv
      cases hrecv
  · simp only [hresult] at hrecv
    cases hrecv
    exact hkernel (by rw [hresult])

/-- A socket keeps the contract of a transport. -/
theorem transport_honest (socket : Socket) : socket.transport.Honest where
  send_le := socket.send_le
  sendPair_le := by
    intro first second h n h' hsend
    rw [← List.length_append]
    exact socket.send_le _ _ _ _ hsend
  recv_le := socket.recv_le

/-- A socket makes one write of two runs. -/
theorem send_of_offered {data : Bytes} {out : Except Error Nat × Host}
    (hoffered : Offered socket.transport data h out) : out = socket.send data h := by
  cases hoffered with
  | whole => rfl
  | split first second _ happend =>
      rw [← happend]
      rfl

/-- What several receives took stands on the stream, whatever they ended with. -/
theorem receives_on {total room : Nat} {data : Bytes} {r : Except Error Fill} {h' : Host}
    (hreceives : Receives socket.transport total room h data r h')
    (hjoins : h.Joins socket.fd i s) :
    ∃ s', h.On i s' h' ∧ s.Took data s' ∧ (r = .ok .closed → s'.Ended) := by
  -- on the receives, each of which is a change of the stream
  induction hreceives generalizing s with
  | full => exact ⟨s, hjoins.on, .refl s, fun hclosed => by cases hclosed⟩
  | short hpos _ hrecv _ =>
      obtain ⟨r, s', h', hcall, hon, htook, _⟩ := recv_on hjoins hpos
      cases hcall.symm.trans hrecv
      exact ⟨s', hon, htook, fun hclosed => by cases hclosed⟩
  | more hpos _ hrecv _ _ ih =>
      obtain ⟨r, s', h', hcall, hon, htook, _⟩ := recv_on hjoins hpos
      cases hcall.symm.trans hrecv
      obtain ⟨s'', hon', htook', hended⟩ := ih (hjoins.after hon)
      exact ⟨s'', hon.trans hon', htook.trans htook', hended⟩
  | wouldBlock hpos _ hrecv =>
      obtain ⟨r, s', h', hcall, hon, htook, _⟩ := recv_on hjoins hpos
      cases hcall.symm.trans hrecv
      refine ⟨s', hon, htook, ?_⟩
      split <;> exact fun hclosed => by cases hclosed
  | closed hpos _ hrecv =>
      obtain ⟨r, s', h', hcall, hon, htook, hended, _⟩ := recv_on hjoins hpos
      cases hcall.symm.trans hrecv
      exact ⟨s', hon, htook, fun _ => hended rfl⟩
  | failed hpos _ hrecv =>
      obtain ⟨r, s', h', hcall, hon, htook, _⟩ := recv_on hjoins hpos
      cases hcall.symm.trans hrecv
      refine ⟨s', hon, htook, ?_⟩
      split <;> exact fun hclosed => by cases hclosed

/-- With room, receives bring something where something is left, and tell the end or fail
    where nothing will come any more. -/
theorem receives_moves {room : Nat} {data : Bytes} {r : Except Error Fill} {h' : Host}
    (hreceives : Receives socket.transport 0 room h data r h') (hjoins : h.Joins socket.fd i s)
    (hroom : 0 < room) :
    (s.unread ≠ [] → data ≠ []) ∧ (s.Ended → r = .ok .closed ∨ ∃ e, r = .error e) := by
  -- the first receive decides in each case
  cases hreceives with
  | full => exact absurd hroom (Nat.lt_irrefl 0)
  | short hpos _ hrecv _ =>
      obtain ⟨_, _, _, hcall, _, _, _, hunread, hover⟩ := recv_on hjoins hpos
      cases hcall.symm.trans hrecv
      refine ⟨hunread, fun hend => ?_⟩
      obtain hclosed | ⟨_, herror⟩ := hover hend
      · cases hclosed
      · cases herror
  | more hpos _ hrecv hall _ =>
      obtain ⟨_, _, _, hcall, _, _, _, _, hover⟩ := recv_on hjoins hpos
      cases hcall.symm.trans hrecv
      refine ⟨fun _ hnil => ?_, fun hend => ?_⟩
      · rw [(List.append_eq_nil_iff.mp hnil).1] at hall
        exact absurd hall (Nat.ne_of_lt hpos)
      · obtain hclosed | ⟨_, herror⟩ := hover hend
        · cases hclosed
        · cases herror
  | wouldBlock hpos _ hrecv =>
      obtain ⟨_, _, _, hcall, _, _, _, hunread, hover⟩ := recv_on hjoins hpos
      cases hcall.symm.trans hrecv
      refine ⟨fun hsome => absurd rfl (hunread hsome), fun hend => ?_⟩
      obtain hclosed | ⟨_, herror⟩ := hover hend
      · cases hclosed
      · cases herror
  | closed hpos _ hrecv =>
      obtain ⟨_, _, _, hcall, _, _, _, hunread, _⟩ := recv_on hjoins hpos
      cases hcall.symm.trans hrecv
      exact ⟨fun hsome => absurd rfl (hunread hsome), fun _ => .inl rfl⟩
  | failed hpos _ hrecv =>
      obtain ⟨_, _, _, hcall, _, _, _, hunread, _⟩ := recv_on hjoins hpos
      cases hcall.symm.trans hrecv
      exact ⟨fun hsome => absurd rfl (hunread hsome), fun _ => .inr ⟨_, rfl⟩⟩

end Socket

/-! ## Buffers and the stream -/

namespace Connection

variable {C : Type} {c : Connection C} {h : Host} {i : Nat} {s : Stream}

/-- What a flush of a connection is to its stream: the bytes leave the output from its front
    and are handed over in order, and what the window does not let through stays. -/
theorem flush_on (hjoins : h.Joins c.fd i s) (htcp : s.family = .tcp)
    (houtput : c.output.WellFormed) :
    ∃ r output s' h', c.flush h = (r, { c with output := output }, h') ∧ h.On i s' h' ∧ s.Served s'
      ∧ s'.taken = s.taken ∧ output.WellFormed ∧ output.capacity = c.output.capacity
      ∧ s'.handed ++ output.toList = s.handed ++ c.output.toList
      ∧ (c.output.isEmpty = false →
        (s.fault = .intact → s.stalled = false → s.handed.length < s'.handed.length)
          ∧ (s.fault = .spent → ∃ e, r = .error e)) := by
  rw [flush]
  cases hempty : c.output.isEmpty with
  | true =>
      rw [RingBuffer.flushTo_of_empty _ _ hempty]
      exact ⟨_, _, s, _, rfl, hjoins.on, .refl s, rfl, houtput, rfl, rfl,
        fun hnonempty => by cases hnonempty⟩
  | false =>
      obtain ⟨r, h', hoffered, hflush⟩ := RingBuffer.flushTo_of_nonempty c.socket.transport h hempty
      obtain ⟨r', s', h'', count, hsend, hon, hserved, htaken, hhanded, hok, herror,
        hsome, hbroken⟩ :=
        Socket.send_on hjoins htcp c.output.toList
      -- a peer with room takes a byte at least, so the stream moves on
      have hlonger : s.fault = .intact → s.stalled = false →
          s.handed.length < s'.handed.length := by
        intro hintact hreads
        rw [RingBuffer.isEmpty_eq houtput, List.isEmpty_eq_false_iff] at hempty
        rw [hhanded, List.length_append]
        exact Nat.lt_add_of_pos_right (hsome hintact hreads hempty)
      cases (Socket.send_of_offered hoffered).trans hsend
      rw [hflush]
      cases r with
      | error e =>
          refine ⟨_, _, s', _, rfl, hon, hserved, htaken, houtput, rfl, ?_,
            fun _ => ⟨hlonger, fun _ => ⟨e, rfl⟩⟩⟩
          rw [hhanded, herror e rfl, List.take_zero, List.append_nil]
      | ok sent =>
          obtain rfl := hok sent rfl
          refine ⟨_, _, s', _, rfl, hon, hserved, htaken,
            RingBuffer.consume_wellFormed houtput sent, RingBuffer.capacity_consume _ _, ?_,
            fun _ => ⟨hlonger, fun hspent => ?_⟩⟩
          -- the taken bytes and the rest are the output as it was
          · rw [hhanded, RingBuffer.toList_consume houtput, List.append_assoc,
              List.take_append_drop]
          · obtain ⟨_, hfailed⟩ := hbroken hspent
            cases hfailed

/-- What a receive of a connection is to its stream: the bytes are taken in order and join
    the end of the input. -/
theorem receive_on (hjoins : h.Joins c.fd i s) (hinput : c.input.WellFormed) :
    ∃ r input s' h' data, c.receive h = (r, { c with input := input }, h') ∧ h.On i s' h'
      ∧ s.Took data s'
      ∧ (r = .ok .closed → s'.Ended) ∧ input.WellFormed ∧ input.capacity = c.input.capacity
      ∧ input.toList = c.input.toList ++ data
      ∧ (c.input.isFull = false → (s.unread ≠ [] → data ≠ [])
          ∧ (s.Ended → r = .ok .closed ∨ ∃ e, r = .error e)) := by
  obtain ⟨data, hreceives, hwf, hlist, hcap⟩ :=
    RingBuffer.fillFrom_receives c.socket.transport_honest.fits h hinput
  obtain ⟨s', hon, htook, hended⟩ := Socket.receives_on hreceives hjoins
  refine ⟨_, _, s', _, data, rfl, hon, htook, hended, hwf, hcap, hlist, fun hroom => ?_⟩
  refine Socket.receives_moves hreceives hjoins ?_
  have hle := hinput.length_le
  rw [← RingBuffer.length_toList hinput] at hle
  rw [RingBuffer.isFull_eq hinput, beq_eq_false_iff_ne] at hroom
  rw [RingBuffer.available_eq hinput]
  omega

end Connection

end EventLoop
