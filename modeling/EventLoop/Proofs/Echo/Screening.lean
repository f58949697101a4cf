import Mathlib.Data.List.Forall2
import EventLoop.Proofs.Echo.Attempts
import EventLoop.Proofs.Server.Admission

/-! # The queue of the listener is screened

    Whoever waits for the listener is taken in the order of arrival: as long as there are
    fewer clients than allowed an attempt lets the first one in, and from then on every
    attempt turns the first one away. Nothing else moves.

    * `Screens`: some clients were let in and others turned away, with all that this changes.
      It holds of no clients (`Screens.refl`), it composes (`Screens.trans`), and an attempt
      is one of two single steps (`Watches.screens_admitted`, `Watches.screens_rejected`).
    * `Attempts.handled` is the induction on the loop. The number of vacancies carries it:
      who is let in takes one, and who is turned away found none.
    * `Provided.stops`: with descriptors and memory only an empty queue ends the loop.
    * `Watches.acceptWithin_stable`: the bound on the attempts is never reached. -/

namespace EventLoop

theorem Server.SameRest.trans {L C : Type} {s s' s'' : Server L C} (h : s.SameRest s')
    (h' : s'.SameRest s'') :
    s.SameRest s'' := by
  unfold SameRest at h h' ⊢
  rw [h', h]

end EventLoop

namespace EventLoop.Echo

open Application

variable {size limit : Nat} {noted : List Ready} {served : List Nat} {a b c x : Service}
  {l : Listener} {s : Server Unit Unit} {h' : Host} {fd : Descriptor} {attempts : List Service}
  {e : Error} {admitted admitted' rejected rejected' : List Nat}

/-! ## Screening -/

/-- The clients that wait for a listener, first come first. -/
def waiting (l : Listener) (a : Service) : List Nat := a.host.kernel.queue l.fd

/-- How many more clients there may be. -/
def vacancies (a : Service) : Nat := a.server.config.maxClients - a.server.connections.size

/-- A client was let in: an entry of the table has the descriptor of its stream, and the
    connection there is marked to watch both directions and has nothing in its buffers. -/
structure LetIn (k : Kernel) (entry : Descriptor × Connection Unit) (client : Nat) : Prop where
  file : k.file? entry.1 = some ⟨.stream client, true⟩
  fd : entry.2.fd = entry.1
  untouched : Untouched entry.2

/-- From one system to another some clients were let in, one behind the other, and some were
    turned away, and that is counted and is all. -/
structure Screens (l : Listener) (admitted rejected : List Nat) (a b : Service) : Prop where
  /-- Table, set and descriptors have the newcomers and whoever was there before. -/
  newcomers : ∃ newcomers, List.Forall₂ (LetIn b.host.kernel) newcomers admitted
    ∧ b.server.connections.entries = a.server.connections.entries ++ newcomers
    ∧ b.server.polled.toList
      = a.server.polled.toList ++ newcomers.map
        (fun entry => ⟨entry.1, .readable ||| .writable ||| .hangup, .empty⟩)
    ∧ b.host.kernel.openDescriptors = (newcomers.map Prod.fst).reverse
      ++ a.host.kernel.openDescriptors
  /-- The streams of those who were turned away are closed, and all others as they were. -/
  closed : b.host.kernel.streams
    = rejected.foldl (fun streams client => streams.modify client Stream.close)
      a.host.kernel.streams
  others : ∀ fd ∈ a.host.kernel.openDescriptors, fd ≠ l.fd →
    b.host.kernel.file? fd = a.host.kernel.file? fd
    ∧ b.host.kernel.stream? fd = a.host.kernel.stream? fd
  server : a.server.SameRest b.server
  kernel : b.host.kernel
    = { a.host.kernel with files := b.host.kernel.files, streams := b.host.kernel.streams }
  data : b.data = { a.data with
    accepts := a.data.accepts + admitted.length
    rejected := a.data.rejected + rejected.length }

/-- Who was let in has an open descriptor. -/
theorem LetIn.isOpen {k : Kernel} {entry : Descriptor × Connection Unit} {client : Nat}
    (h : LetIn k entry client) :
    entry.1 ∈ k.openDescriptors := by
  by_contra hfree
  cases h.file.symm.trans (Kernel.file?_eq_none_iff.mpr hfree)

theorem LetIn.ne_listener {k : Kernel} {entry : Descriptor × Connection Unit} {client : Nat}
    (h : LetIn k entry client) (hlistens : k.Listens l.fd) : entry.1 ≠ l.fd := by
  intro hsame
  obtain ⟨_, _, hhandle⟩ := hlistens
  rw [← hsame, h.file] at hhandle
  cases hhandle

namespace Screens

theorem refl (l : Listener) (a : Service) : Screens l [] [] a a where
  newcomers := ⟨[], .nil, (List.append_nil _).symm, (List.append_nil _).symm, rfl⟩
  closed := rfl
  others := fun _ _ _ => ⟨rfl, rfl⟩
  server := rfl
  kernel := rfl
  data := rfl

theorem trans (h : Screens l admitted rejected a b) (h' : Screens l admitted' rejected' b c)
    (hlistens : b.host.kernel.Listens l.fd) :
    Screens l (admitted ++ admitted') (rejected ++ rejected') a c where
  newcomers := by
    obtain ⟨first, hfirst, hentries, hpolled, hopen⟩ := h.newcomers
    obtain ⟨second, hsecond, hentries', hpolled', hopen'⟩ := h'.newcomers
    -- who was let in first keeps file and connection while others come
    have hstay : List.Forall₂ (LetIn c.host.kernel) first admitted := by
      refine List.Forall₂.imp ?_ hfirst
      intro entry client hin
      exact ⟨(h'.others entry.1 hin.isOpen (hin.ne_listener hlistens)).1.trans hin.file, hin.fd,
        hin.untouched⟩
    refine ⟨first ++ second, List.rel_append hstay hsecond, ?_, ?_, ?_⟩
    · rw [hentries', hentries, List.append_assoc]
    · rw [hpolled', hpolled, List.map_append, List.append_assoc]
    · rw [hopen', hopen, List.map_append, List.reverse_append, List.append_assoc]
  closed := by rw [h'.closed, h.closed, List.foldl_append]
  others := by
    intro fd hfd hne
    obtain ⟨_, _, _, _, hopen⟩ := h.newcomers
    obtain ⟨hfile, hstream⟩ := h.others fd hfd hne
    obtain ⟨hfile', hstream'⟩ := h'.others fd (hopen ▸ List.mem_append_right _ hfd) hne
    exact ⟨hfile'.trans hfile, hstream'.trans hstream⟩
  server := h.server.trans h'.server
  kernel := by
    rw [h'.kernel, h.kernel]
  data := by
    rw [h'.data, h.data, List.length_append, List.length_append, Nat.add_assoc, Nat.add_assoc]

/-- What is written to the log afterwards does not matter. -/
theorem quiet (h : Screens l admitted rejected a b) (hserver : c.server = b.server)
    (hkernel : c.host.kernel = b.host.kernel) (hdata : c.data = b.data) :
    Screens l admitted rejected a c := by
  obtain ⟨hnewcomers, hclosed, hothers, hrest, hunchanged, hcounted⟩ := h
  constructor
  · rwa [hserver, hkernel]
  · rwa [hkernel]
  · rwa [hkernel]
  · rwa [hserver]
  · rwa [hkernel]
  · rwa [hdata]

theorem listener_eq (h : Screens l admitted rejected a b) :
    b.server.listener = a.server.listener := by rw [h.server]

/-- Each client that was let in took a vacancy. -/
theorem vacancies_eq (h : Screens l admitted rejected a b) (hb : Watches size noted served b) :
    vacancies a = vacancies b + admitted.length := by
  obtain ⟨newcomers, hin, hentries, _⟩ := h.newcomers
  obtain ⟨config, hlimited⟩ := Limited.of_reachable hb.reachable
  have hle := hlimited.size_le hb.reachable.paired
  have hlimits : b.server.config = a.server.config := by rw [h.server]
  have hsize : b.server.connections.size = a.server.connections.size + admitted.length := by
    rw [DescriptorTable.size, hentries, List.length_append, hin.length_eq]
    rfl
  rw [← hlimited.limits] at hle
  rw [vacancies, vacancies, ← hlimits]
  omega

end Screens

/-! ## One attempt -/

namespace Watches

/-- An attempt that fails leaves the system as its cause says. -/
theorem refuses (h : Watches size noted served a)
    (haccept : a.server.accept () a.host = (.error e, s, h')) :
    a.server.Refuses a.host.kernel e h'.kernel := by
  obtain ⟨_, hlimited⟩ := Limited.of_reachable h.reachable
  exact (hlimited.accept_refused h.reachable.paired haccept).2

variable (h : Watches size noted served a) (hl : a.server.listener = some l)

include h hl

/-- An attempt that succeeds lets the first client in. -/
theorem screens_admitted (haccept : a.server.accept () a.host = (.ok fd, s, h')) :
    ∃ client, waiting l a = client :: waiting l
        ⟨s.onConnection fd fun c => { c with status := watchMask }, h',
          { a.data with accepts := a.data.accepts + 1 }⟩
      ∧ Screens l [client] [] a
        ⟨s.onConnection fd fun c => { c with status := watchMask }, h',
          { a.data with accepts := a.data.accepts + 1 }⟩ := by
  obtain ⟨_, hlimited⟩ := Limited.of_reachable h.reachable
  obtain ⟨hgains, l', client, hl', hhands⟩ := hlimited.accept_admitted h.reachable.paired haccept
  obtain rfl := Option.some.inj (hl.symm.trans hl')
  obtain ⟨_, _, _, _, _, hadmits, _⟩ := Server.admits_of_accept haccept
  obtain ⟨peer, hentries⟩ := hadmits.entries
  have hnone := h.echoes.get?_of_fresh hhands.fresh
  refine ⟨client, hhands.queue,
    ⟨[_], ?_, DescriptorTable.entries_modify_append _ hentries hnone, hgains.entries,
    hhands.openDescriptors⟩, ?_, ?_, ?_, ?_, rfl⟩
  · exact .cons ⟨hhands.file, rfl, untouched_newcomer hadmits.size fd peer⟩ .nil
  · show h'.kernel.streams = a.host.kernel.streams
    rw [hhands.rest]
  -- a file other than the listener's and the new one is not touched
  · intro other hopen hne
    have hother : other ≠ fd := by
      rintro rfl
      exact hhands.fresh hopen
    exact ⟨hhands.files other hne hother, hhands.stream?_of_ne hne hother⟩
  · exact hgains.rest.trans rfl
  · show h'.kernel = _
    rw [hhands.rest]

/-- An attempt that finds every slot taken turns the first client away, and there was no
    vacancy. -/
theorem screens_rejected {slots : Nat}
    (haccept : a.server.accept () a.host = (.error (.capacityExceeded slots), a.server, h')) :
    vacancies a = 0 ∧ ∃ client,
      waiting l a = client :: waiting l ⟨a.server, h',
        { a.data with rejected := a.data.rejected + 1 }⟩
        ∧ Screens l [] [client] a ⟨a.server, h',
          { a.data with rejected := a.data.rejected + 1 }⟩ := by
  obtain ⟨config, hlimited⟩ := Limited.of_reachable h.reachable
  have hfull := hlimited.full_of_exceeded h.reachable.paired haccept
  have hrefuses := h.refuses haccept
  refine ⟨?_, ?_⟩
  · rw [vacancies, hlimited.limits, hfull, Nat.sub_self]
  cases hrefuses with
  | @dropped l' client _ _ hl' _ hdrops =>
      obtain rfl := Option.some.inj (hl.symm.trans hl')
      refine ⟨client, hdrops.queue, ⟨[], .nil, (List.append_nil _).symm, (List.append_nil _).symm,
        hdrops.openDescriptors⟩, hdrops.closed, ?_, rfl, hdrops.rest, rfl⟩
      intro other _ hne
      exact ⟨hdrops.files other hne,
        hdrops.stream?_of_ne h.echoes.balanced.tidy (h.listens l hl) hne⟩

end Watches

/-! ## The loop -/

/-- What the attempts up to a system did with the clients that came first: as many of them
    as there were vacancies were let in, and the others turned away. -/
structure Handled (size : Nat) (noted : List Ready) (served : List Nat) (l : Listener) (a : Service)
    (handled : List Nat) (x : Service) : Prop where
  watches : Watches size noted served x
  listener : x.server.listener = some l
  queue : waiting l a = handled ++ waiting l x
  screens : Screens l (handled.take (vacancies a)) (handled.drop (vacancies a)) a x

/-- An attempt fails, and not for want of a slot, and that ends the loop. -/
structure Stops (x : Service) (e : Error) (b : Service) : Prop where
  other : ∀ slots, e ≠ .capacityExceeded slots
  ends : ∃ h notes, x.server.accept () x.host = (.error e, x.server, h)
    ∧ b = ⟨x.server, h.logAll notes,
      if e.isWouldBlock then x.data else { x.data with errors := x.data.errors + 1 }⟩

theorem Handled.refl (h : Watches size noted served a) (hl : a.server.listener = some l) :
    Handled size noted served l a [] a where
  watches := h
  listener := hl
  queue := rfl
  screens := by
    rw [List.take_nil, List.drop_nil]
    exact .refl l a

/-- A client that is let in takes a vacancy, and was the first in the queue. -/
theorem Handled.admit {client : Nat} {handled : List Nat}
    (h : Handled size noted served l b handled x)
    (hb : Watches size noted served b) (hl : b.server.listener = some l)
    (hqueue : waiting l a = client :: waiting l b) (hscreens : Screens l [client] [] a b) :
    Handled size noted served l a (client :: handled) x where
  watches := h.watches
  listener := h.listener
  queue := by rw [hqueue, h.queue, List.cons_append]
  screens := by
    have hvacancies : vacancies a = vacancies b + 1 := hscreens.vacancies_eq hb
    rw [hvacancies]
    exact hscreens.trans h.screens (hb.listens l hl)

/-- A client that is turned away found none. -/
theorem Handled.reject {client : Nat} {handled : List Nat}
    (h : Handled size noted served l b handled x)
    (hb : Watches size noted served b) (hl : b.server.listener = some l) (hfull : vacancies a = 0)
    (hqueue : waiting l a = client :: waiting l b) (hscreens : Screens l [] [client] a b) :
    Handled size noted served l a (client :: handled) x where
  watches := h.watches
  listener := h.listener
  queue := by rw [hqueue, h.queue, List.cons_append]
  screens := by
    have hvacancies : vacancies a = vacancies b := hscreens.vacancies_eq hb
    have hrest := h.screens
    rw [← hvacancies, hfull] at hrest
    rw [hfull]
    exact hscreens.trans hrest (hb.listens l hl)

theorem getLast?_cons_of_some (a : Service) (h : attempts.getLast? = some x) :
    (a :: attempts).getLast? = some x := by
  rw [List.getLast?_cons, h]
  rfl

/-- With more attempts than clients the loop ends with an attempt that fails, and all those
    before it went through the queue. -/
theorem Attempts.handled (h : Attempts limit a attempts b) (ha : Watches size noted served a)
    (hl : a.server.listener = some l) (hlimit : (waiting l a).length < limit) :
    ∃ handled x e, attempts.getLast? = some x ∧ Handled size noted served l a handled x
      ∧ Stops x e b := by
  -- on the attempts; the queue is shorter than the limit, so a refusal comes before it is spent
  induction h with
  | spent a => exact absurd hlimit (Nat.not_lt_zero _)
  | @admitted _ a b rest fd s h' haccept hrest ih =>
      obtain ⟨client, hqueue, hscreens⟩ := ha.screens_admitted hl haccept
      have hx := (ha.admitted haccept).count { a.data with accepts := a.data.accepts + 1 }
      have hlistener := hscreens.listener_eq.trans hl
      rw [hqueue, List.length_cons] at hlimit
      obtain ⟨handled, x, e, hlast, hhandled, hstops⟩ :=
        ih hx hlistener (Nat.lt_of_succ_lt_succ hlimit)
      exact ⟨client :: handled, x, e, getLast?_cons_of_some a hlast,
        hhandled.admit hx hlistener hqueue hscreens, hstops⟩
  | @rejected _ _ a b rest h' haccept hrest ih =>
      obtain ⟨hfull, client, hqueue, hscreens⟩ := ha.screens_rejected hl haccept
      have hx := (ha.refused haccept).count { a.data with rejected := a.data.rejected + 1 }
      rw [hqueue, List.length_cons] at hlimit
      obtain ⟨handled, x, e, hlast, hhandled, hstops⟩ := ih hx hl (Nat.lt_of_succ_lt_succ hlimit)
      exact ⟨client :: handled, x, e, getLast?_cons_of_some a hlast,
        hhandled.reject hx hl hfull hqueue hscreens, hstops⟩
  | refused limit notes haccept hother =>
      exact ⟨[], _, _, rfl, .refl ha hl, hother, _, notes, haccept, rfl⟩

/-- An attempt that fails for another cause than a missing slot is the last one. -/
theorem Attempts.last_of_error {h' : Host} (h : Attempts limit a attempts b) (hx : x ∈ attempts)
    (haccept : x.server.accept () x.host = (.error e, x.server, h'))
    (hother : ∀ slots, e ≠ .capacityExceeded slots) :
    attempts.getLast? = some x := by
  -- on the attempts, of which only the last can fail in this way
  induction h with
  | spent _ => cases hx
  | admitted hok _ ih =>
      rcases List.mem_cons.mp hx with rfl | hx
      · cases hok.symm.trans haccept
      · exact getLast?_cons_of_some _ (ih hx)
  | @rejected _ slots _ _ _ _ hfull _ ih =>
      rcases List.mem_cons.mp hx with rfl | hx
      · cases hfull.symm.trans haccept
        exact absurd rfl (hother slots)
      · exact getLast?_cons_of_some _ (ih hx)
  | refused _ _ _ _ =>
      rw [List.mem_singleton.mp hx]
      rfl

/-- How many attempts are allowed does not matter, as long as they are more than there are
    clients. -/
theorem Watches.acceptWithin_stable {limit' : Nat} (h : Watches size noted served a)
    (hl : a.server.listener = some l)
    (hlimit : (waiting l a).length < limit) (hlimit' : (waiting l a).length < limit') :
    Echo.acceptWithin limit a = Echo.acceptWithin limit' a := by
  -- on the limit: an attempt that goes on takes a client, so both limits stay above the queue
  induction limit generalizing a limit' with
  | zero => exact absurd hlimit (Nat.not_lt_zero _)
  | succ limit ih =>
      obtain ⟨limit', rfl⟩ : ∃ m, limit' = m + 1 :=
        Nat.exists_eq_add_one.mpr (Nat.zero_lt_of_lt hlimit')
      rw [Echo.acceptWithin, Echo.acceptWithin]
      obtain ⟨e, h', haccept, _⟩ | ⟨fd, s, h', haccept, _⟩ := a.server.accept_cases () a.host
      · rw [bind_of_ok (run_eq haccept), bind_of_ok (run_eq haccept)]
        cases e with
        | capacityExceeded slots =>
            obtain ⟨_, client, hqueue, _⟩ := h.screens_rejected hl haccept
            rw [hqueue, List.length_cons] at hlimit hlimit'
            exact ih ((h.refused haccept).count { a.data with rejected := a.data.rejected + 1 }) hl
              (Nat.lt_of_succ_lt_succ hlimit) (Nat.lt_of_succ_lt_succ hlimit')
        | _ => rfl
      · rw [bind_of_ok (run_eq haccept), bind_of_ok (run_eq haccept)]
        obtain ⟨client, hqueue, hscreens⟩ := h.screens_admitted hl haccept
        rw [hqueue, List.length_cons] at hlimit hlimit'
        exact ih ((h.admitted haccept).count { a.data with accepts := a.data.accepts + 1 })
          (hscreens.listener_eq.trans hl) (Nat.lt_of_succ_lt_succ hlimit)
            (Nat.lt_of_succ_lt_succ hlimit')

/-! ## How the loop ends -/

/-- An attempt can have a descriptor, and memory for the buffers of whoever comes. -/
structure Provided (a : Service) : Prop where
  descriptor : a.host.kernel.admits a.host.kernel.lowestFree = true
  memory : 0 < a.server.pending a.host → a.host.GrantsBuffers a.server.config.bufferSize

/-- No limit is put on descriptors, and memory for a buffer is lent as a matter of course. -/
structure Unlimited (a : Service) : Prop where
  descriptors : a.host.kernel.descriptorLimit = none
  memory : a.host.memory.request a.server.config.bufferSize = (true, a.host.memory)

theorem Unlimited.provided (h : Unlimited a) : Provided a where
  descriptor := by
    rw [Kernel.admits, h.descriptors]
    rfl
  memory := by
    intro _
    rw [Host.GrantsBuffers, h.memory, h.memory]
    exact ⟨rfl, rfl⟩

/-- It stays so from one attempt to the next. -/
theorem Unlimited.screens {answer : Except Error Descriptor} (h : Unlimited a)
    (ha : Watches size noted served a)
    (hl : a.server.listener = some l) (hscreens : Screens l admitted rejected a b)
    (haccept : a.server.accept () a.host = (answer, s, b.host)) : Unlimited b := by
  obtain ⟨_, hlimited⟩ := Limited.of_reachable ha.reachable
  have hmemory := hlimited.accept_memory ha.reachable.paired hl () (hlimited.limits ▸ h.memory)
  rw [haccept] at hmemory
  have hsame : b.host.memory = a.host.memory := hmemory
  refine ⟨?_, ?_⟩
  · rw [hscreens.kernel]
    exact h.descriptors
  · rw [hsame, hscreens.server]
    exact h.memory

/-- Where nothing is limited, every attempt can have what it needs. -/
theorem Attempts.provided (h : Attempts limit a attempts b) (ha : Watches size noted served a)
    (hl : a.server.listener = some l) (hunlimited : Unlimited a) : ∀ x ∈ attempts, Provided x := by
  -- on the attempts; an admitted client leaves enough for the next
  induction h with
  | spent _ => exact fun _ hx => by cases hx
  | admitted haccept _ ih =>
      obtain ⟨_, _, hscreens⟩ := ha.screens_admitted hl haccept
      have hrest := ih ((ha.admitted haccept).count _) (hscreens.listener_eq.trans hl)
        (hunlimited.screens ha hl hscreens haccept)
      exact List.forall_mem_cons.mpr ⟨hunlimited.provided, hrest⟩
  | rejected haccept _ ih =>
      obtain ⟨_, _, _, hscreens⟩ := ha.screens_rejected hl haccept
      have hrest := ih ((ha.refused haccept).count _) hl (hunlimited.screens ha hl hscreens haccept)
      exact List.forall_mem_cons.mpr ⟨hunlimited.provided, hrest⟩
  | refused _ _ _ _ =>
      intro x hx
      rw [List.mem_singleton.mp hx]
      exact hunlimited.provided

/-- Where everything is provided an attempt that ends the loop found an empty queue. -/
theorem Provided.stops (h : Provided x) (hx : Watches size noted served x)
    (hl : x.server.listener = some l)
    (hstops : Stops x e b) : waiting l x = [] ∧ e.isWouldBlock = true := by
  obtain ⟨hother, _, _, haccept, _⟩ := hstops
  obtain ⟨config, hlimited⟩ := Limited.of_reachable hx.reachable
  have hpending : x.server.pending x.host = (waiting l x).length := by rw [Server.pending, hl]; rfl
  have hnobody : waiting l x = [] := by
    by_contra hwaiting
    have hpos : 0 < x.server.pending x.host := hpending ▸ List.length_pos_iff.mpr hwaiting
    have hanswer := hlimited.accept_answer hx.reachable.paired hpos h.descriptor
      (hlimited.limits ▸ h.memory hpos) ()
    rw [haccept] at hanswer
    split at hanswer
    · cases hanswer
    · exact hother _ (Except.error.inj hanswer)
  refine ⟨hnobody, ?_⟩
  have hanswer := Server.accept_of_nobody hl (hx.listens l hl) hnobody h.descriptor ()
  rw [haccept] at hanswer
  rw [Except.error.inj hanswer]
  rfl

/-- An attempt that would have to wait changes nothing. -/
theorem Stops.of_wouldBlock (h : Stops x e b) (hx : Watches size noted served x)
    (hblocks : e.isWouldBlock = true) :
    b.server = x.server ∧ b.host.kernel = x.host.kernel ∧ b.data = x.data := by
  obtain ⟨_, host, notes, haccept, rfl⟩ := h
  have hrefuses := hx.refuses haccept
  refine ⟨rfl, ?_, if_pos hblocks⟩
  show host.kernel = x.host.kernel
  generalize host.kernel = kernel at hrefuses
  cases hrefuses with
  | unbound _ => rfl
  | untaken _ _ _ => rfl
  | dropped _ hcause _ => obtain rfl | rfl := hcause <;> cases hblocks

/-- An attempt that ends the loop leaves the queue as it was, or lacked memory for the client
    that came first. -/
theorem Stops.waiting_eq (h : Stops x e b) (hx : Watches size noted served x)
    (hl : x.server.listener = some l) :
    waiting l b = waiting l x
      ∨ e = .outOfMemory x.server.config.bufferSize
      ∧ ∃ client, waiting l x = client :: waiting l b := by
  obtain ⟨hother, host, notes, haccept, rfl⟩ := h
  have hrefuses := hx.refuses haccept
  show host.kernel.queue l.fd = _ ∨ _ ∧ ∃ client, _ = client :: host.kernel.queue l.fd
  generalize host.kernel = kernel at hrefuses
  cases hrefuses with
  | unbound hnone => cases hnone.symm.trans hl
  | untaken _ _ _ => exact .inl rfl
  | @dropped l' client _ _ hl' hcause hdrops =>
      obtain rfl := Option.some.inj (hl.symm.trans hl')
      obtain hmemory | hslots := hcause
      · exact .inr ⟨hmemory, client, hdrops.queue⟩
      · exact absurd hslots (hother _)

end EventLoop.Echo
