import EventLoop.Proofs.Server.Rounds

/-! # Who owns what is open

    A server holds its listener and the sockets of its connections (`Server.held`), and
    whatever else is open belongs to others. `Shares others a` is a run of a server beside
    others who open and close files of their own; `others` is what they have open.

    * `Paired.held_eq`: what is held is what is watched, so that a step changes both alike.
    * `Shares.accounted`: nothing is open but what the server holds and what belongs to
      others, each as often as it has to be. A descriptor that is opened and forgotten
      would be in neither list, one that is closed twice in both.
    * `Shares.reaches`: whatever handlers do, what they lead to is such a run again. -/

namespace EventLoop

open Application

variable {L C D : Type} {a b : Application L C D} {others others' : List Descriptor}

/-- The descriptors that a server holds: its listener, while it is bound, and one for each
    connection. -/
def Server.held (s : Server L C) : List Descriptor :=
  (s.listener.map Listener.fd).toList ++ s.connections.entries.map fun (_, c) => c.fd

/-- Runs of a server from binding on, beside others who have a list of descriptors open. -/
inductive Shares : List Descriptor → Application L C D → Prop
  | bound {address : String} {handler : L} {config : Config} {h h' : Host}
      {s : Server L C} (data : D)
      (hbind : Server.bind address handler config h = (.ok s, h')) :
      Shares h.openDescriptors ⟨s, h', data⟩
  | accept {others : List Descriptor} {a : Application L C D} (h : Shares others a) (handler : C) :
      Shares others (after (run (·.accept handler)) a)
  | disconnect {others : List Descriptor} {a : Application L C D} (h : Shares others a)
      (fd : Descriptor) :
      Shares others (after (run (·.disconnect fd)) a)
  | cleanup {others : List Descriptor} {a : Application L C D} (h : Shares others a) :
      Shares others (after (run fun s h => ((), s.cleanup h)) a)
  /-- Whatever else can happen, as long as nothing is opened or closed. -/
  | still {others : List Descriptor} {a b : Application L C D} (h : Shares others a)
      (hmoment : Moment a b)
      (hopen : b.host.openDescriptors = a.host.openDescriptors) : Shares others b
  /-- Others open and close files; what is not theirs stays open. -/
  | others {rest others others' : List Descriptor} {a : Application L C D} {host : Host}
      (h : Shares others a)
      (hbefore : a.host.openDescriptors.Perm (rest ++ others))
      (hafter : host.openDescriptors.Perm (rest ++ others')) :
      Shares others' { a with host := host }

/-! ## What is held -/

/-- Each connection is kept under the descriptor of its own socket, so that exactly what is
    watched is held. -/
theorem Paired.held_eq (h : Paired a) : a.server.held = a.server.polled.descriptors := by
  have howned : a.server.roster.map (fun x => x.socket.fd) = a.server.roster.map Seat.key :=
    List.map_congr_left fun x hx => h.owned x hx
  rw [h.watched, ← howned, Server.roster, List.map_map]
  rfl

/-- A server holds no descriptor twice. -/
theorem Paired.held_nodup (h : Paired a) : a.server.held.Nodup := h.held_eq ▸ h.distinct

/-- What a server holds is open. -/
theorem Paired.held_open (h : Paired a) : a.server.held ⊆ a.host.openDescriptors :=
  h.held_eq ▸ h.isOpen

/-- A connection is found under the descriptor of its own socket, which the server holds. -/
theorem Paired.fd_of_get? (h : Paired a) {fd : Descriptor} {c : Connection C}
    (hget : a.server.connections.get? fd = some c) : c.fd = fd ∧ fd ∈ a.server.held := by
  have hseat := Server.mem_roster_of_get? hget
  exact ⟨h.owned _ hseat, h.held_eq ▸ h.mem_descriptors hseat⟩

/-- A server that was cleaned up holds nothing. -/
theorem Server.held_cleanup (s : Server L C) (h : Host) : (s.cleanup h).1.held = [] := by
  rw [Server.cleanup_server]
  rfl

/-- Cleaning up closes the sockets of all connections and the listener. -/
theorem Server.openDescriptors_cleanup (s : Server L C) (h : Host) :
    (s.cleanup h).2.openDescriptors = h.openDescriptors.diff s.held := by
  have hclosed : ∀ (entries : List (Descriptor × Connection C)) (host : Host),
      (entries.foldl (fun h (_, c) => h.close c.fd) host).openDescriptors
        = host.openDescriptors.diff (entries.map fun (_, c) => c.fd) := by
    intro entries
    induction entries with
    | nil => exact fun _ => rfl
    | cons entry rest ih =>
        intro host
        rw [List.foldl_cons, ih, Host.openDescriptors_close, List.map_cons, List.diff_cons]
  -- connections come first when files are closed, and last in the list
  rw [Server.held, List.Perm.diff_left _ List.perm_append_comm, List.diff_append, ← hclosed,
    Server.cleanup]
  cases s.listener with
  | none => rfl
  | some l =>
      rw [Option.map_some, Option.toList_some, List.diff_cons, List.diff_nil]
      exact Host.openDescriptors_close
        (s.connections.entries.foldl (fun h (_, c) => h.close c.fd) h) l.fd

/-! ## The books -/

/-- Set and table go together, and what is open is what the server holds and what belongs
    to others. -/
structure Accounted (others : List Descriptor) (a : Application L C D) : Prop where
  paired : Paired a
  balance : a.host.openDescriptors.Perm (a.server.held ++ others)

namespace Accounted

/-- Binding adds the listener to what is open, and the server holds it. -/
theorem bound {address : String} {handler : L} {config : Config} {h h' : Host}
    {s : Server L C} (data : D) (hbind : Server.bind address handler config h = (.ok s, h')) :
    Accounted h.openDescriptors (⟨s, h', data⟩ : Application L C D) := by
  refine ⟨(Server.bind_fresh hbind).paired data, ?_⟩
  obtain ⟨_, _, herror, _⟩ | ⟨s₁, h₁, hok, hfresh, l, hlistener, hopen⟩ :=
    Server.bind_cases (L := L) (C := C) address handler config h
  · cases hbind.symm.trans herror
  · cases hbind.symm.trans hok
    show h'.openDescriptors.Perm (s.held ++ _)
    rw [hopen, Server.held, hlistener, hfresh.connections]
    exact .refl _

variable (h : Accounted others a)

include h

theorem accept (handler : C) : Accounted others (after (run (·.accept handler)) a) := by
  have hpaired := (Moment.step (Step.accept a handler)).paired h.paired
  refine ⟨hpaired, ?_⟩
  have hbalance := h.balance
  rw [hpaired.held_eq]
  rw [h.paired.held_eq] at hbalance
  obtain ⟨e, h', haccept, hopen⟩ | ⟨fd, s', h', haccept, _, hfresh, hadmits, hopen⟩ :=
    a.server.accept_cases handler a.host
  · rw [after_run, haccept]
    exact (List.Perm.of_eq hopen).trans hbalance
  · -- the new descriptor was not open, hence not watched, and goes behind what is
    have hnew : fd ∉ a.server.polled.descriptors := fun hmem => hfresh (h.paired.isOpen hmem)
    have hdescriptors := PollSet.descriptors_add h.paired.wellFormed hadmits.polled
    rw [if_neg hnew] at hdescriptors
    rw [after_run, haccept]
    show h'.openDescriptors.Perm (s'.polled.descriptors ++ others)
    rw [hopen, hdescriptors, List.append_assoc]
    exact (hbalance.cons fd).trans List.perm_middle.symm

theorem disconnect (fd : Descriptor) : Accounted others (after (run (·.disconnect fd)) a) := by
  have hpaired := (Moment.step (Step.disconnect a fd)).paired h.paired
  refine ⟨hpaired, ?_⟩
  have hbalance := h.balance
  rw [hpaired.held_eq]
  rw [h.paired.held_eq] at hbalance
  obtain ⟨_, h', hdisconnect, hkernel⟩ | ⟨c, hget, h', hdisconnect, hkernel⟩ :=
    a.server.disconnect_cases fd a.host
  · rw [after_run, hdisconnect]
    exact (List.Perm.of_eq (congrArg Kernel.openDescriptors hkernel)).trans hbalance
  · obtain ⟨hfd, hmem⟩ := h.paired.fd_of_get? hget
    rw [h.paired.held_eq] at hmem
    rw [after_run, hdisconnect]
    show h'.kernel.openDescriptors.Perm ((a.server.polled.remove fd).2.descriptors ++ others)
    rw [hkernel, Kernel.openDescriptors_close, hfd, PollSet.descriptors_remove h.paired.wellFormed,
      ← List.erase_append_left _ hmem]
    exact hbalance.erase fd

/-- What remains when everything that is held is closed is what belongs to others. -/
theorem diff_held : (a.host.openDescriptors.diff a.server.held).Perm others := by
  have hcount : ∀ fd ∈ a.server.held, a.server.held.count fd ≤ a.host.openDescriptors.count fd := by
    intro fd _
    rw [h.balance.count_eq, List.count_append]
    exact Nat.le_add_right _ _
  have hsplit := List.subperm_append_diff_self_of_count_le hcount
  exact (List.perm_append_left_iff _).mp (hsplit.trans h.balance)

theorem cleanup : Accounted others (after (run fun s h => ((), s.cleanup h)) a) := by
  refine ⟨(Moment.step (Step.cleanup a)).paired h.paired, ?_⟩
  show (a.server.cleanup a.host).2.openDescriptors.Perm ((a.server.cleanup a.host).1.held ++ others)
  rw [Server.held_cleanup]
  rw [Server.openDescriptors_cleanup]
  exact h.diff_held

/-- Nothing is opened or closed, and what is watched is so still. -/
theorem of_descriptors (hpaired : Paired b)
    (hdescriptors : b.server.polled.descriptors = a.server.polled.descriptors)
    (hopen : b.host.openDescriptors = a.host.openDescriptors) : Accounted others b := by
  refine ⟨hpaired, ?_⟩
  rw [hopen, hpaired.held_eq, hdescriptors, ← h.paired.held_eq]
  exact h.balance

theorem setInterest (fd : Descriptor) (interest : EventMask) :
    Accounted others (after (Session.setInterest ⟨fd⟩ interest) a) := by
  have hpaired := (Moment.step (Step.setInterest a fd interest)).paired h.paired
  obtain ⟨e, _, hafter⟩ | ⟨s', hset, hafter⟩ := after_setInterest a fd interest
  · rw [hafter]
    exact h
  · obtain ⟨hmem, polled, hadd, rfl⟩ := Server.setInterest_cases hset
    obtain ⟨c, hget⟩ := DescriptorTable.exists_get?_of_mem_keys hmem
    have hwatched := h.paired.mem_descriptors (Server.mem_roster_of_get? hget)
    rw [hafter] at hpaired ⊢
    refine h.of_descriptors hpaired ?_ rfl
    rw [PollSet.descriptors_add h.paired.wellFormed hadd, if_pos hwatched]

theorem still (hmoment : Moment a b) (hopen : b.host.openDescriptors = a.host.openDescriptors) :
    Accounted others b := by
  have hpaired := hmoment.paired h.paired
  cases hmoment with
  | step hstep =>
      cases hstep with
      | accept handler => exact h.accept handler
      | disconnect fd => exact h.disconnect fd
      | cleanup => exact h.cleanup
      | setInterest fd interest => exact h.setInterest fd interest
      | _ => exact h.of_descriptors hpaired rfl hopen
  | note noted => exact h.of_descriptors hpaired rfl hopen
  | wait =>
      refine h.of_descriptors hpaired ?_ hopen
      rw [after_run]
      rcases hwait : a.server.wait a.host with ⟨r, s', h'⟩
      obtain ⟨polled, rfl, rfl | ⟨results, rfl⟩, _⟩ := Server.wait_cases hwait
      · rfl
      · exact PollSet.toList_record_map _ results PollEntry.fd fun _ _ => rfl

/-- What others open and close is theirs. -/
theorem elsewhere {rest : List Descriptor} {host : Host}
    (hbefore : a.host.openDescriptors.Perm (rest ++ others))
    (hafter : host.openDescriptors.Perm (rest ++ others')) :
    Accounted others' { a with host := host } := by
  -- what is not theirs can only be what the server holds
  have hrest : a.server.held.Perm rest :=
    (List.perm_append_right_iff _).mp (h.balance.symm.trans hbefore)
  have hbalance : host.openDescriptors.Perm (a.server.held ++ others') :=
    hafter.trans (hrest.symm.append_right others')
  refine ⟨⟨h.paired.wellFormed, h.paired.distinct, h.paired.watched, h.paired.first, h.paired.owned,
    h.paired.ended, fun fd hfd => ?_⟩, hbalance⟩
  refine hbalance.symm.subset (List.mem_append_left _ ?_)
  rw [h.paired.held_eq]
  exact hfd

end Accounted

/-- At every point of a run the account is right. -/
theorem Shares.accounted (h : Shares others a) : Accounted others a := by
  -- on the run, with one case for each kind of moment
  induction h with
  | bound data hbind => exact .bound data hbind
  | accept _ handler ih => exact ih.accept handler
  | disconnect _ fd ih => exact ih.disconnect fd
  | cleanup _ ih => exact ih.cleanup
  | still _ hmoment hopen ih => exact ih.still hmoment hopen
  | others _ hbefore hafter ih => exact ih.elsewhere hbefore hafter

/-- Every path of a run is a run beside others: what a moment adds to the open descriptors
    without the server is theirs. -/
theorem Shares.reaches (h : Shares others a) (hreach : Reaches a b) :
    ∃ others', Shares others' b := by
  induction hreach with
  | refl => exact ⟨others, h⟩
  | tail _ hlast ih =>
      obtain ⟨between, hshares⟩ := ih
      -- more may be open now, and it is not the server that opened it
      have hmore : ∀ {c : Application L C D} {host : Host}, Shares between c →
          c.host.openDescriptors ⊆ host.openDescriptors →
          ∃ others', Shares others' { c with host := host } := by
        intro c host hc hopen
        obtain ⟨hpaired, hbalance⟩ := hc.accounted
        have hheld : ∀ fd ∈ c.server.held, c.server.held.count fd ≤ host.openDescriptors.count fd :=
          List.subperm_ext_iff.mp
            (hpaired.held_nodup.subperm fun fd hfd => hopen (hpaired.held_open hfd))
        exact ⟨_, hc.others hbalance (List.subperm_append_diff_self_of_count_le hheld).symm⟩
      cases hlast with
      | step hstep =>
          cases hstep with
          | accept handler => exact ⟨between, hshares.accept handler⟩
          | disconnect fd => exact ⟨between, hshares.disconnect fd⟩
          | cleanup => exact ⟨between, hshares.cleanup⟩
          | use hkept hopen =>
              exact hmore (hshares.still (.step (.use _ hkept fun _ hfd => hfd)) rfl) hopen
          | world hopen => exact hmore hshares hopen
          | setInterest fd interest =>
              refine ⟨between, hshares.still (.step (.setInterest _ fd interest)) ?_⟩
              obtain ⟨e, _, hafter⟩ | ⟨s', _, hafter⟩ := after_setInterest _ fd interest
              · rw [hafter]
              · rw [hafter]
          | setTimeout timeout => exact ⟨between, hshares.still (.step (.setTimeout _ timeout)) rfl⟩
          | setHandler handler => exact ⟨between, hshares.still (.step (.setHandler _ handler)) rfl⟩
          | keep userData => exact ⟨between, hshares.still (.step (.keep _ userData)) rfl⟩
          | data data => exact ⟨between, hshares.still (.step (.data _ data)) rfl⟩
      | note noted => exact ⟨between, hshares.still (.note _ noted) rfl⟩
      | wait =>
          refine ⟨between, hshares.still (.wait _) ?_⟩
          obtain ⟨_, _, _, hkernel⟩ := Server.wait_cases rfl
          exact congrArg Kernel.openDescriptors hkernel

/-- What the calls of a server do to the open descriptors: failures leave them as they
    were, and each connection opens one and closes one. -/
structure Settles (others : List Descriptor) (a : Application L C D) : Prop where
  refused : ∀ handler e s' h', a.server.accept handler a.host = (.error e, s', h') →
    s' = a.server ∧ h'.openDescriptors = a.host.openDescriptors
  admitted : ∀ handler fd s' h', a.server.accept handler a.host = (.ok fd, s', h') →
    fd ∉ a.host.openDescriptors ∧ h'.openDescriptors = fd :: a.host.openDescriptors
  unknown : ∀ fd s' h', a.server.disconnect fd a.host = (false, s', h') →
    s' = a.server ∧ h'.openDescriptors = a.host.openDescriptors
  disconnected : ∀ fd s' h', a.server.disconnect fd a.host = (true, s', h') →
    ∃ c, a.server.connections.get? fd = some c
      ∧ a.host.openDescriptors.Perm (c.fd :: h'.openDescriptors)
  cleaned : (a.server.cleanup a.host).1.held = []
    ∧ (a.server.cleanup a.host).2.openDescriptors.Perm others

/-- Where the account is right, every call of the server settles it. -/
theorem Accounted.settles (h : Accounted others a) : Settles others a where
  refused := by
    intro handler e s' h' hresult
    obtain ⟨e', h₁, haccept, hopen⟩ | ⟨fd, s₁, h₁, haccept, _⟩ :=
      a.server.accept_cases handler a.host
    · cases haccept.symm.trans hresult
      exact ⟨rfl, hopen⟩
    · cases haccept.symm.trans hresult
  admitted := by
    intro handler fd s' h' hresult
    obtain ⟨e, h₁, haccept, _⟩ | ⟨fd', s₁, h₁, haccept, _, hfresh, _, hopen⟩ :=
      a.server.accept_cases handler a.host
    · cases haccept.symm.trans hresult
    · cases haccept.symm.trans hresult
      exact ⟨hfresh, hopen⟩
  unknown := by
    intro fd s' h' hresult
    obtain ⟨_, h₁, hdisconnect, hkernel⟩ | ⟨c, _, h₁, hdisconnect, _⟩ :=
      a.server.disconnect_cases fd a.host
    · cases hdisconnect.symm.trans hresult
      exact ⟨rfl, congrArg Kernel.openDescriptors hkernel⟩
    · cases hdisconnect.symm.trans hresult
  disconnected := by
    intro fd s' h' hresult
    obtain ⟨_, h₁, hdisconnect, _⟩ | ⟨c, hget, h₁, hdisconnect, hkernel⟩ :=
      a.server.disconnect_cases fd a.host
    · cases hdisconnect.symm.trans hresult
    · cases hdisconnect.symm.trans hresult
      obtain ⟨hfd, hmem⟩ := h.paired.fd_of_get? hget
      refine ⟨c, hget, ?_⟩
      rw [Host.openDescriptors, Host.openDescriptors, hkernel, Kernel.openDescriptors_close]
      exact List.perm_cons_erase (hfd ▸ h.paired.held_open hmem)
  cleaned := by
    refine ⟨a.server.held_cleanup a.host, ?_⟩
    rw [Server.openDescriptors_cleanup]
    exact h.diff_held

end EventLoop
