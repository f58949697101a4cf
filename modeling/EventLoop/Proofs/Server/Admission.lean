import EventLoop.Proofs.PollSet.Watchlist
import EventLoop.Proofs.Server.Limits

/-! # Accepting is all or nothing

    By the time a server can refuse a client the system has already handed the client
    over: it has left the queue and has a descriptor. What is undone then is not the call
    but the descriptor, so that the client is gone and nothing else is.

    * `Kernel.dequeue` is the part that stays of every call that took a client. With the
      new descriptor on top this is an admission, with the client's stream closed a
      refusal (`Accepts.eq_openAt`, `close_openAt`).
    * `Kernel.Drops`, `Kernel.Hands`: the same, said of what can be seen of the system.
    * `Server.accept_rest`: of the fields of a server accepting writes three.
    * `Limited.accept_refused`, `Limited.accept_admitted`: the two ways accepting ends. -/

namespace EventLoop

open Application

namespace Kernel

variable {k k' : Kernel} {fd listener other : Descriptor} {first : Nat}

/-- The system after the first stream left the queue of a listener. -/
def dequeue (k : Kernel) (listener : Descriptor) : Kernel :=
  match k.file? listener with
  | some ⟨.listener address queue, nonblocking⟩ =>
      k.setFile listener ⟨.listener address queue.tail, nonblocking⟩
  | _ => k

/-- A stream was dropped from the queue of a listener and closed; nothing else happened. -/
structure Drops (k : Kernel) (listener : Descriptor) (first : Nat) (k' : Kernel) : Prop where
  queue : k.queue listener = first :: k'.queue listener
  closed : k'.streams = k.streams.modify first Stream.close
  openDescriptors : k'.openDescriptors = k.openDescriptors
  files : ∀ other, other ≠ listener → k'.file? other = k.file? other
  rest : k' = { k with files := k'.files, streams := k'.streams }

/-- A stream was moved from the queue of a listener to a new descriptor; nothing else
    happened. -/
structure Hands (k : Kernel) (listener fd : Descriptor) (first : Nat) (k' : Kernel) : Prop where
  queue : k.queue listener = first :: k'.queue listener
  fresh : fd ∉ k.openDescriptors
  openDescriptors : k'.openDescriptors = fd :: k.openDescriptors
  file : k'.file? fd = some ⟨.stream first, true⟩
  files : ∀ other, other ≠ listener → other ≠ fd → k'.file? other = k.file? other
  rest : k' = { k with files := k'.files }

/-- Of an open listener the first in the queue is dropped. -/
theorem dequeue_of_listener {address : Address} {queue : List Nat} {nonblocking : Bool}
    (hlistener : k.file? listener = some ⟨.listener address queue, nonblocking⟩) :
    k.dequeue listener = k.setFile listener ⟨.listener address queue.tail, nonblocking⟩ := by
  rw [dequeue, hlistener]

@[simp] theorem openDescriptors_dequeue (k : Kernel) (listener : Descriptor) :
    (k.dequeue listener).openDescriptors = k.openDescriptors := by
  rw [dequeue]
  split
  · exact openDescriptors_setFile _ _ _
  · rfl

/-- Other files are not touched by what leaves the queue. -/
theorem file?_dequeue_of_ne (k : Kernel) (hne : other ≠ listener) :
    (k.dequeue listener).file? other = k.file? other := by
  rw [dequeue]
  split
  · exact file?_setFile_of_ne _ _ hne
  · rfl

theorem dequeue_rest (k : Kernel) (listener : Descriptor) :
    k.dequeue listener = { k with files := (k.dequeue listener).files } := by
  rw [dequeue]
  split <;> rfl

/-- The queue of an open listener is the one in its file. -/
theorem queue_of_listener {address : Address} {queue : List Nat} {nonblocking : Bool}
    (hlistener : k.file? listener = some ⟨.listener address queue, nonblocking⟩) :
    k.queue listener = queue := by
  rw [Kernel.queue, hlistener]
  rfl

theorem queue_congr (h : k'.file? listener = k.file? listener) :
    k'.queue listener = k.queue listener := by
  rw [queue, h, queue]

/-- A new file whose calls do not wait is opened in two calls or in one. -/
theorem setNonblocking_openAt (k : Kernel) (fd : Descriptor) (index : Nat) (nonblocking : Bool) :
    ((k.openAt fd ⟨.stream index, nonblocking⟩).setNonblocking fd).2 = k.openAt fd
      ⟨.stream index, true⟩ := by
  have hhead : ((fd, (⟨.stream index, nonblocking⟩ : OpenFile)).1 == fd) = true :=
    beq_self_eq_true fd
  rw [setNonblocking_of_stream (file?_openAt_self k fd ⟨.stream index, nonblocking⟩), setFile,
    openAt, List.findIdx_cons, hhead]
  rfl

/-- To close a stream right after it was opened is to close the stream. -/
theorem close_openAt (k : Kernel) (fd : Descriptor) (index : Nat) (nonblocking : Bool) :
    (k.openAt fd ⟨.stream index, nonblocking⟩).close fd = k.onStream index Stream.close := by
  have hfiles : (k.openAt fd ⟨.stream index, nonblocking⟩).files.eraseP (fun entry => entry.1 == fd)
      = k.files :=
    List.eraseP_cons_of_pos (beq_self_eq_true fd)
  rw [close, file?_openAt_self]
  show ({ k with files := (k.openAt fd ⟨.stream index, nonblocking⟩).files.eraseP fun entry =>
    entry.1 == fd } :
    Kernel).onStream index Stream.close = _
  rw [hfiles]

namespace Accepts

variable (h : k.Accepts listener fd first k')

include h

/-- Accepting opens a file for the stream that has left the queue. -/
theorem eq_openAt : k' = (k.dequeue listener).openAt fd ⟨.stream first, false⟩ := by
  cases h with
  | mk hlistener _ => rw [dequeue_of_listener hlistener, List.tail_cons]

/-- The queue is the stream that leaves and the rest. -/
theorem queue_dequeue : k.queue listener = first :: (k.dequeue listener).queue listener := by
  cases h with
  | mk hlistener _ =>
      rw [queue_of_listener hlistener, dequeue_of_listener hlistener,
        queue_of_listener (file?_setFile_self _ hlistener), List.tail_cons]

/-- An accepted stream whose descriptor is closed again is dropped. -/
theorem drops : k.Drops listener first ((k'.setNonblocking fd).2.close fd) := by
  rw [h.eq_openAt, setNonblocking_openAt, close_openAt]
  refine ⟨h.queue_dequeue, ?_, openDescriptors_dequeue k listener,
    fun _ hne => file?_dequeue_of_ne k hne, ?_⟩
  · show (k.dequeue listener).streams.modify first Stream.close = k.streams.modify
      first Stream.close
    rw [dequeue_rest k listener]
  · rw [onStream, dequeue_rest k listener]

/-- Accepting and setting the file not to wait hands the stream over. -/
theorem hands : k.Hands listener fd first (k'.setNonblocking fd).2 := by
  have hne := h.listener_ne
  have hfresh := h.fresh
  rw [h.eq_openAt, setNonblocking_openAt]
  refine ⟨?_, hfresh, ?_, file?_openAt_self _ _ _, ?_, ?_⟩
  · rw [queue_congr (file?_openAt_of_ne _ _ hne)]
    exact h.queue_dequeue
  · rw [openDescriptors_openAt, openDescriptors_dequeue]
  · intro other hlistener hfd
    rw [file?_openAt_of_ne _ _ hfd, file?_dequeue_of_ne k hlistener]
  · rw [openAt, dequeue_rest k listener]

end Accepts

/-- A client that is handed over takes nothing from those who have a descriptor. -/
theorem Hands.stream?_of_ne (h : k.Hands listener fd first k') (hlistener : other ≠ listener)
    (hfd : other ≠ fd) :
    k'.stream? other = k.stream? other := by
  have hstreams : k'.streams = k.streams := by rw [h.rest]
  rw [stream?, index?_congr (congrArg _ (h.files other hlistener hfd)), hstreams, stream?]

/-- And one that is dropped neither: its stream is nobody else's. -/
theorem Drops.stream?_of_ne (h : k.Drops listener first k') (htidy : k.Tidy)
    (hlistens : k.Listens listener)
    (hne : other ≠ listener) : k'.stream? other = k.stream? other := by
  have hfirst : first ∈ k.references listener := by
    rw [← hlistens.queue_eq, h.queue]
    exact List.mem_cons_self
  rw [stream?, index?_congr (congrArg _ (h.files other hne)), stream?]
  cases hindex : k.index? other with
  | none => rfl
  | some i =>
      show k'.streams[i]? = k.streams[i]?
      rw [h.closed]
      exact List.getElem?_modify_ne _ _ (htidy.index_ne hindex hfirst hne.symm)

end Kernel

variable {L C D : Type} {a : Application L C D} {s s' : Server L C} {h h' : Host}

/-- A descriptor that was not in the set takes the first slot behind the entries. -/
theorem PollSet.spare_of_new {p p' : PollSet} {fd : Descriptor} {interest : EventMask}
    (hnew : fd ∉ p.descriptors)
    (hadd : p.add fd interest = .ok p') : p'.spare = p.spare.tail ∧ p'.timeout = p.timeout := by
  rw [add, position?_eq_none_iff.mpr hnew] at hadd
  by_cases hfull : p.registered = p.capacity
  · simp only [if_pos hfull] at hadd
    cases hadd
  · simp only [if_neg hfull] at hadd
    obtain rfl := Except.ok.inj hadd
    refine ⟨?_, rfl⟩
    show (p.slots.setIfInBounds p.registered _).toList.drop (p.registered + 1) = p.spare.tail
    rw [Array.toList_setIfInBounds, List.drop_set_of_lt (Nat.lt_succ_self _), spare, List.tail_drop]

namespace Server

/-- Two servers that differ in set, table and the next id at most. -/
def SameRest (s s' : Server L C) : Prop :=
  s' = { s with polled := s'.polled, connections := s'.connections, nextId := s'.nextId }

/-- Registering a connection leaves all but set, table and next id alone. -/
theorem register_rest (s : Server L C) (socket : Socket) (peer : Address) (handler : C) (h : Host) :
    s.SameRest (s.register socket peer handler h).2.1 := by
  rw [register]
  split
  · rfl
  · split
    · rfl
    · split
      · rfl
      · split <;> rfl

/-- Whatever comes of it, accepting writes to nothing but set, table and the next id. -/
theorem accept_rest (s : Server L C) (handler : C) (h : Host) :
    s.SameRest (s.accept handler h).2.1 := by
  rw [accept, acceptBy]
  split
  · rfl
  · split
    · rfl
    · split
      · rfl
      · exact register_rest s _ _ handler _

/-- A connection to which nothing has happened yet: with the next id, two empty buffers of
    the configured size, the tag 0 and no data. -/
structure Untouched (s : Server L C) (fd : Descriptor) (handler : C) (c : Connection C) : Prop where
  id : c.id = s.nextId
  socket : c.socket = ⟨fd⟩
  address : c.listenerAddress = s.localAddress
  input : c.input.toList = [] ∧ c.input.capacity = s.config.bufferSize
  output : c.output.toList = [] ∧ c.output.capacity = s.config.bufferSize
  handler : c.handler = handler
  status : c.status = 0
  userData : c.userData = none

/-- A connection that is admitted is untouched. -/
theorem newcomer_untouched (hsize : s.config.bufferSize.isPowerOfTwo) (fd : Descriptor)
    (peer : Address) (handler : C) : s.Untouched fd handler (s.newcomer fd peer handler) where
  id := rfl
  socket := rfl
  address := rfl
  input := ⟨RingBuffer.toList_blank hsize, RingBuffer.capacity_blank _⟩
  output := ⟨RingBuffer.toList_blank hsize, RingBuffer.capacity_blank _⟩
  handler := rfl
  status := rfl
  userData := rfl

/-- How accepting fails, and what it leaves of the system. -/
inductive Refuses (s : Server L C) (k : Kernel) : Error → Kernel → Prop
  | unbound (hunbound : s.listener = none) : Refuses s k .notBound k
  /-- The system refuses, for whatever reason; nobody has left the queue. -/
  | untaken {l : Listener} (hl : s.listener = some l) (call : String) (errno : Errno) :
      Refuses s k (.os call errno) k
  /-- The client that came first has left the queue and is gone. -/
  | dropped {l : Listener} {first : Nat} {e : Error} {k' : Kernel} (hl : s.listener = some l)
      (hcause : e = .outOfMemory s.config.bufferSize ∨ e = .capacityExceeded s.polled.capacity)
      (hdrops : k.Drops l.fd first k') : Refuses s k e k'

/-- What accepting changes when it succeeds: one entry at the end of the set, one at the end
    of the table, and the next id. -/
structure Gains (s : Server L C) (fd : Descriptor) (handler : C) (s' : Server L C) : Prop where
  entries : s'.polled.toList = s.polled.toList ++ [⟨fd, .connection, .empty⟩]
  slots : s'.polled.capacity = s.polled.capacity ∧ s'.polled.spare = s.polled.spare.tail
  timeout : s'.polled.timeout = s.polled.timeout
  connection : ∃ c, s'.connections.entries = s.connections.entries ++ [(fd, c)]
    ∧ s.Untouched fd handler c
  nextId : s'.nextId = s.nextId + 1
  rest : s.SameRest s'

end Server

namespace Limited

variable {config : Config} (hlimited : Limited config a.server) (hpaired : Paired a)

include hlimited hpaired

/-- Accepting that fails leaves the server as it was, and the system as its cause says. -/
theorem accept_refused {handler : C} {e : Error}
    (haccept : a.server.accept handler a.host = (.error e, s', h')) :
    s' = a.server ∧ a.server.Refuses a.host.kernel e h'.kernel := by
  cases hl : a.server.listener with
  | none =>
      cases (Server.accept_of_unbound hl handler a.host).symm.trans haccept
      exact ⟨rfl, .unbound hl⟩
  | some l =>
      have hanswers := hlimited.answers hpaired hl handler
      rw [haccept] at hanswers
      cases hanswers with
      | nobody hkernel =>
          rw [hkernel]
          exact ⟨rfl, .untaken hl _ _⟩
      | turnedAway haccepts hcause hkernel =>
          rw [hkernel]
          exact ⟨rfl, .dropped hl hcause haccepts.drops⟩

/-- Accepting that succeeds adds one connection, and hands over the first stream of the
    queue. -/
theorem accept_admitted {handler : C} {fd : Descriptor}
    (haccept : a.server.accept handler a.host = (.ok fd, s', h')) :
    a.server.Gains fd handler s'
      ∧ ∃ l first, a.server.listener = some l ∧ a.host.kernel.Hands l.fd fd first h'.kernel := by
  cases hl : a.server.listener with
  | none => cases (Server.accept_of_unbound hl handler a.host).symm.trans haccept
  | some l =>
      have hrest := a.server.accept_rest handler a.host
      have hanswers := hlimited.answers hpaired hl handler
      rw [haccept] at hanswers hrest
      cases hanswers with
      | letIn haccepts hadmits hkernel =>
          rw [hkernel]
          refine ⟨?_, l, _, rfl, haccepts.hands⟩
          -- the descriptor is new to the system, so that the set did not watch it either
          have hnew : fd ∉ a.server.polled.descriptors :=
            fun hmem => haccepts.fresh (hpaired.isOpen hmem)
          obtain ⟨_, hcapacity, ⟨_, hpos, _⟩ | ⟨_, _, hentries⟩⟩ :=
            PollSet.add_cases hpaired.wellFormed hadmits.polled
          · cases (PollSet.position?_eq_none_iff.mpr hnew).symm.trans hpos
          · obtain ⟨hspare, htimeout⟩ := PollSet.spare_of_new hnew hadmits.polled
            obtain ⟨peer, hconnections⟩ := hadmits.entries
            exact ⟨hentries, ⟨hcapacity, hspare⟩, htimeout,
              ⟨_, hconnections, Server.newcomer_untouched hadmits.size fd peer handler⟩,
              hadmits.nextId, hrest⟩

end Limited

/-- Accepting at a reachable server either fails and leaves the server as it is, and then
    nobody has left the queue or the client that came first was dropped for want of memory
    or of a slot; or it succeeds, and then that client has left the queue for a descriptor
    that was free, and the server has gained the connection and nothing else. -/
theorem accept_atomic (h : Reachable a) (handler : C) :
    (∀ e s' h', a.server.accept handler a.host = (.error e, s', h') →
        s' = a.server ∧ a.server.Refuses a.host.kernel e h'.kernel)
      ∧ ∀ fd s' h', a.server.accept handler a.host = (.ok fd, s', h') →
          a.server.Gains fd handler s'
            ∧ ∃ l first, a.server.listener = some l
              ∧ a.host.kernel.Hands l.fd fd first h'.kernel := by
  obtain ⟨config, hlimited⟩ := Limited.of_reachable h
  exact ⟨fun _ _ _ haccept => hlimited.accept_refused h.paired haccept,
    fun _ _ _ haccept => hlimited.accept_admitted h.paired haccept⟩

/-- With both places taken the third of three clients is dropped; with one place left the
    second of two is let in. -/
theorem accept_atomic_serving :
    ∃ (full roomy : Application Unit Unit Unit) (refused admitted : Server Unit Unit)
      (after after' : Host),
    Loopback.serving? 3 2 = some full ∧ full.host.kernel.queue 3 = [2]
      ∧ full.server.accept () full.host = (.error (.capacityExceeded 3), refused, after)
      ∧ refused = full.server
      ∧ full.host.kernel.Drops 3 2 after.kernel
      ∧ Loopback.serving? 2 1 = some roomy ∧ roomy.host.kernel.queue 3 = [1]
      ∧ roomy.server.accept () roomy.host = (.ok 5, admitted, after')
      ∧ roomy.server.Gains 5 () admitted
      ∧ roomy.host.kernel.Hands 3 5 1 after'.kernel := by
  have hfull : (Loopback.serving? 3 2).map (fun app => ((app.server.accept () app.host).1,
      app.server.listener.map Listener.fd, app.host.kernel.queue 3))
        = some (.error (.capacityExceeded 3), some 3, [2]) := by decide +kernel
  have hroomy : (Loopback.serving? 2 1).map (fun app => ((app.server.accept () app.host).1,
      app.server.listener.map Listener.fd, app.host.kernel.queue 3))
        = some (.ok 5, some 3, [1]) := by decide +kernel
  obtain ⟨full, hserving, hparts⟩ := Option.map_eq_some_iff.mp hfull
  obtain ⟨roomy, hserving', hparts'⟩ := Option.map_eq_some_iff.mp hroomy
  simp only [Prod.mk.injEq] at hparts hparts'
  obtain ⟨hanswer, hl, hqueue⟩ := hparts
  obtain ⟨hanswer', hl', hqueue'⟩ := hparts'
  obtain ⟨hrefused, _⟩ := accept_atomic (Loopback.serving_reachable hserving) ()
  obtain ⟨_, hadmitted⟩ := accept_atomic (Loopback.serving_reachable hserving') ()
  rcases haccept : full.server.accept () full.host with ⟨r, refused, after⟩
  rcases haccept' : roomy.server.accept () roomy.host with ⟨r', admitted, after'⟩
  rw [haccept] at hanswer
  rw [haccept'] at hanswer'
  obtain rfl : r = .error (.capacityExceeded 3) := hanswer
  obtain rfl : r' = .ok 5 := hanswer'
  obtain ⟨hsame, hrefuses⟩ := hrefused _ _ _ haccept
  obtain ⟨hgains, l', first', hlistener', hhands⟩ := hadmitted _ _ _ haccept'
  refine ⟨full, roomy, refused, admitted, after, after', hserving, hqueue, haccept, hsame, ?_,
    hserving', hqueue', haccept', hgains, ?_⟩
  · cases hrefuses with
    | @dropped l first _ _ hlistener _ hdrops =>
        rw [hlistener] at hl
        have hfd : l.fd = 3 := Option.some.inj hl
        rw [hfd] at hdrops
        have hfirst := hdrops.queue
        rw [hqueue] at hfirst
        obtain rfl : 2 = first := (List.cons.inj hfirst).1
        exact hdrops
  · rw [hlistener'] at hl'
    have hfd : l'.fd = 3 := Option.some.inj hl'
    rw [hfd] at hhands
    have hfirst := hhands.queue
    rw [hqueue'] at hfirst
    obtain rfl : 1 = first' := (List.cons.inj hfirst).1
    exact hhands

end EventLoop
