import EventLoop.Proofs.Echo.Effort

/-! # Attempts to accept

    The listener's handler tries to accept until an attempt says that nobody is left. The
    answer of an attempt tells what became of the queue: one client fewer waits after an
    attempt that admitted a client or turned it away, for want of a slot or of memory, and
    as many as before after any other (`Watches.takenBy_eq`).

    * `Attempts`: the loop, with the system as it is before each attempt. Whatever the
      loop does is such a sequence (`acceptWithin_attempts`).
    * `Accepting`: the call of the handler.
    * `takenBy`, `unfunded`: what is counted of an attempt. -/

namespace EventLoop.Echo

open Application

variable {size : Nat} {noted : List Ready} {served : List Nat} {a b : Service} {l : Listener}

/-! ## The loop -/

/-- Attempts to accept, at most so many, with what comes after the last one. Each begins in
    the system that the one before it left; an attempt that neither admitted a client nor
    found every slot taken is the last. -/
inductive Attempts : Nat → Service → List Service → Service → Prop
  | spent (a : Service) : Attempts 0 a [] a
  | admitted {limit : Nat} {a b : Service} {rest : List Service} {fd : Descriptor}
      {s : Server Unit Unit} {h : Host}
      (haccept : a.server.accept () a.host = (.ok fd, s, h))
      (hrest : Attempts limit ⟨s.onConnection fd fun c => { c with status := watchMask }, h,
        { a.data with accepts := a.data.accepts + 1 }⟩ rest b) :
      Attempts (limit + 1) a (a :: rest) b
  | rejected {limit slots : Nat} {a b : Service} {rest : List Service} {h : Host}
      (haccept : a.server.accept () a.host = (.error (.capacityExceeded slots), a.server, h))
      (hrest : Attempts limit ⟨a.server, h, { a.data with rejected := a.data.rejected + 1 }⟩
        rest b) :
      Attempts (limit + 1) a (a :: rest) b
  | refused {a : Service} {e : Error} {h : Host} (limit : Nat) (notes : List Log.Note)
      (haccept : a.server.accept () a.host = (.error e, a.server, h))
      (hother : ∀ slots, e ≠ .capacityExceeded slots) :
      Attempts (limit + 1) a [a] ⟨a.server, h.logAll notes,
        if e.isWouldBlock then a.data else { a.data with errors := a.data.errors + 1 }⟩

/-- The loop returns, after attempts each of which began where the one before it ended. -/
theorem acceptWithin_attempts (limit : Nat) (a : Service) :
    ∃ attempts b, Echo.acceptWithin limit a = .ok () b ∧ Attempts limit a attempts b := by
  -- on the attempts that are left; each goes on where the one before it ended
  induction limit generalizing a with
  | zero => exact ⟨[], a, rfl, .spent a⟩
  | succ limit ih =>
      rw [Echo.acceptWithin]
      obtain ⟨e, h, haccept, _⟩ | ⟨fd, s, h, haccept, _⟩ := a.server.accept_cases () a.host
      · rw [bind_of_ok (run_eq haccept)]
        cases e with
        | capacityExceeded slots =>
            obtain ⟨rest, b, hok, hrest⟩ :=
              ih ⟨a.server, h, { a.data with rejected := a.data.rejected + 1 }⟩
            exact ⟨a :: rest, b, hok, .rejected haccept hrest⟩
        | _ =>
            -- whatever is logged about it, a failure of another kind is the last attempt
            have hlast := fun notes => Attempts.refused limit notes haccept (by rintro _ ⟨⟩)
            dsimp only
            split
            · rename_i hcounts
              rw [Bool.not_eq_true'] at hcounts
              simp only [hcounts] at hlast
              split
              · exact ⟨[a], _, rfl, hlast [⟨.error, _⟩]⟩
              · exact ⟨[a], _, rfl, hlast []⟩
            · rename_i hwaits
              rw [Bool.not_eq_true', Bool.not_eq_false] at hwaits
              simp only [hwaits] at hlast
              exact ⟨[a], _, rfl, hlast []⟩
      · rw [bind_of_ok (run_eq haccept)]
        obtain ⟨rest, b, hok, hrest⟩ :=
          ih ⟨s.onConnection fd fun c => { c with status := watchMask }, h,
          { a.data with accepts := a.data.accepts + 1 }⟩
        exact ⟨a :: rest, b, hok, .admitted haccept hrest⟩

/-- The call of the listener's handler and the attempts that it makes: none where the wait did
    not find the listener readable, and otherwise one more than clients wait, at most. -/
inductive Accepting (a : Service) : List Service → Service → Prop
  | idle {b : Service} (hreadable : (a.server.polled.result 0).isReadable = false)
      (hcall : handlers.callListener a = .ok () b) : Accepting a [] b
  | taking {b : Service} {attempts : List Service} {message : String}
      (hreadable : (a.server.polled.result 0).isReadable = true)
      (hcall : handlers.callListener a = .ok () b)
      (hattempts : Attempts (a.server.pending a.host + 1) (a.traced message) attempts b) :
      Accepting a attempts b

/-- Every round has its attempts, if none at all. -/
theorem exists_accepting (a : Service) : ∃ attempts b, Accepting a attempts b := by
  cases hreadable : (a.server.polled.result 0).isReadable with
  | true =>
      obtain ⟨message, hcall⟩ := callListener_of_readable hreadable
      obtain ⟨attempts, b, hok, hattempts⟩ :=
        acceptWithin_attempts (a.server.pending a.host + 1) (a.traced message)
      exact ⟨attempts, b, .taking hreadable (hcall.trans hok) hattempts⟩
  | false =>
      obtain hcall | ⟨_, hcall⟩ := callListener_of_unreadable hreadable
      · exact ⟨[], _, .idle hreadable hcall⟩
      · exact ⟨[], _, .idle hreadable hcall⟩

/-- The call of the listener's handler is these attempts. -/
theorem Accepting.call {attempts : List Service} (h : Accepting a attempts b) :
    handlers.callListener a = .ok () b := by
  cases h with
  | idle _ hcall => exact hcall
  | taking _ hcall _ => exact hcall

/-! ## What an attempt is counted for -/

/-- How many clients fewer wait after an attempt. -/
def takenBy (a : Service) : Nat :=
  let (_, server, host) := a.server.accept () a.host
  a.server.pending a.host - server.pending host

/-- The attempt failed for lack of memory for the buffers of a connection. -/
def unfunded (a : Service) : Bool :=
  match (a.server.accept () a.host).1 with
  | .error (.outOfMemory _) => true
  | _ => false

/-- How many clients an attempt took from the queue, by its answer. -/
def takenFor : Except Error Descriptor → Nat
  | .ok _ => 1
  | .error (.capacityExceeded _) => 1
  | .error (.outOfMemory _) => 1
  | .error _ => 0

/-- How many of them there was no memory for, by its answer. -/
def unfundedFor : Except Error Descriptor → Nat
  | .error (.outOfMemory _) => 1
  | _ => 0

/-- What an attempt took from the queue can be told from its answer. -/
theorem Watches.takenBy_eq (h : Watches size noted served a) (hl : a.server.listener = some l) :
    takenBy a = takenFor (a.server.accept () a.host).1 := by
  obtain ⟨_, hlimited⟩ := Limited.of_reachable h.reachable
  have hanswers := hlimited.answers h.reachable.paired hl ()
  rw [takenBy]
  generalize a.server.accept () a.host = result at hanswers ⊢
  cases hanswers with
  | @nobody _ _ h' hkernel =>
      have halike : a.host.kernel.Alike h'.kernel := .of_files (by rw [hkernel]) (by rw [hkernel])
      show a.server.pending a.host - a.server.pending h' = 0
      rw [pending_alike h.listens halike, Nat.sub_self]
  | @turnedAway _ _ _ _ h' haccepts hcause hkernel =>
      show a.server.pending a.host - a.server.pending h' = _
      rw [h.pending_turnedAway hl haccepts hkernel, Nat.add_sub_cancel_left]
      obtain rfl | rfl := hcause <;> rfl
  | @letIn _ _ _ server h' haccepts hadmits hkernel =>
      show a.server.pending a.host - server.pending h' = 1
      rw [h.pending_letIn hl haccepts hadmits hkernel, Nat.add_sub_cancel_left]

end EventLoop.Echo
