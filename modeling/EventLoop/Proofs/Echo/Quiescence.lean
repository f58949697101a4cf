import EventLoop.Proofs.Echo.Effort

/-! # The echo loop comes to rest

    When clients leave an echo server alone, its rounds find something only so often, and
    then everything is done (`running_quiesces`): what a round finds is taken off the
    effort.

    * The listener's handler takes a client if one waits (`Watches.listener_lighter`), and
      in no case does it make more to do (`Onward`).
    * What a wait noted of a connection stays true until its turn (`Due`), since a turn
      concerns its own connection only. So each turn has a reason, and takes something
      off (`Watches.round_lighter`).
    * A wait that finds nothing leaves nothing to do (`Watches.atRest`). -/

namespace EventLoop.Echo

open Application

variable {size n : Nat} {noted : List Ready} {served : List Nat} {a b : Service}
  {s : Server Unit Unit} {h' : Host} {fd : Descriptor} {l : Listener} {c : Connection Unit}
  {r : Ready} {counts : List Nat} {turns : List (EventLoop.Turn Unit Unit Stats)}

/-! ## The listener -/

/-- There is not more to do, not more clients wait, and what was due is due. -/
structure Onward (a b : Service) : Prop where
  effort : effort b ≤ effort a
  pending : b.server.pending b.host ≤ a.server.pending a.host
  listener : b.server.listener = a.server.listener
  due : ∀ r, Due r a → Due r b

namespace Onward

theorem refl (a : Service) : Onward a a := ⟨Nat.le_refl _, Nat.le_refl _, rfl, fun _ hdue => hdue⟩

theorem trans {c : Service} (h : Onward a b) (h' : Onward b c) : Onward a c :=
  ⟨Nat.le_trans h'.effort h.effort, Nat.le_trans h'.pending h.pending, h'.listener.trans h.listener,
    fun r hdue => h'.due r (h.due r hdue)⟩

theorem of_lighter (h : Lighter a b) (hdue : ∀ r, Due r a → Due r b) : Onward a b :=
  ⟨Nat.le_of_lt h.effort, Nat.le_of_lt h.pending, h.listener, hdue⟩

end Onward

namespace Watches

section

variable {listener : Descriptor} {first : Nat} {k : Kernel} (h : Watches size noted served a)
  (haccepts : a.host.kernel.Accepts listener fd first k)

include h haccepts

/-- Nobody who is live has the descriptor of a client that is taken. -/
theorem due_ne (hdue : Due r a) : r.fd ≠ fd := by
  obtain ⟨c, _, hget, _⟩ := hdue
  rintro rfl
  cases (h.echoes.get?_of_fresh haccepts.fresh).symm.trans hget

/-- Turning a client away leaves what was due. -/
theorem turnedAway_due (hkernel : h'.kernel = (k.setNonblocking fd).2.close fd) (hdue : Due r a) :
    Due r { a with host := h' } := by
  have hne := h.due_ne haccepts hdue
  have htidy := (k.alike_setNonblocking fd).tidy (haccepts.tidy h.echoes.balanced.tidy)
  refine hdue.of_same (fun _ hget => hget) ?_
  intro s hs
  show h'.kernel.stream? r.fd = some s
  rw [hkernel, htidy.stream?_close_of_ne hne, (k.alike_setNonblocking fd).stream?_eq,
    haccepts.stream?_of_ne hne]
  exact hs

theorem letIn_due (hadmits : a.server.Admits fd () s)
    (hkernel : h'.kernel = (k.setNonblocking fd).2) (hdue : Due r a) :
    Due r { a with
      server := s.onConnection fd fun c => { c with status := watchMask }, host := h' } := by
  have hne := h.due_ne haccepts hdue
  refine hdue.of_same ?_ ?_
  · intro c hget
    obtain ⟨_, hentries⟩ := hadmits.entries
    show (s.connections.modify fd _).get? r.fd = some c
    rw [DescriptorTable.get?_modify_of_ne _ _ hne, DescriptorTable.get?, hentries,
      List.lookup_append]
    have hfound : a.server.connections.entries.lookup r.fd = some c := hget
    rw [hfound]
    rfl
  · intro s hs
    show h'.kernel.stream? r.fd = some s
    rw [hkernel, (k.alike_setNonblocking fd).stream?_eq, haccepts.stream?_of_ne hne]
    exact hs

end

theorem refused_onward {e : Error} (h : Watches size noted served a)
    (haccept : a.server.accept () a.host = (.error e, a.server, h')) :
    Onward a { a with host := h' } := by
  obtain hkernel | ⟨l, fd, first, k, hl, haccepts, hkernel⟩ := Server.kernel_of_refused haccept
  · have halike : a.host.kernel.Alike h'.kernel := .of_files (by rw [hkernel]) (by rw [hkernel])
    refine ⟨Nat.le_of_eq (effort_quiet rfl rfl halike),
      Nat.le_of_eq (pending_alike h.listens halike), rfl, ?_⟩
    intro r hdue
    refine hdue.of_same (fun _ hget => hget) ?_
    intro s hs
    show h'.kernel.stream? r.fd = some s
    rwa [hkernel]
  · exact .of_lighter (h.turnedAway hl haccepts hkernel) fun _ => h.turnedAway_due haccepts hkernel

/-- An attempt that lets a client in goes onward. -/
theorem admitted_onward (h : Watches size noted served a)
    (haccept : a.server.accept () a.host = (.ok fd, s, h')) :
    Onward a { a with
      server := s.onConnection fd fun c => { c with status := watchMask }, host := h' } := by
  obtain ⟨_, _, _, hl, haccepts, hadmits, hkernel⟩ := Server.admits_of_accept haccept
  exact .of_lighter (h.letIn hl haccepts hadmits hkernel) fun _ =>
    h.letIn_due haccepts hadmits hkernel

end Watches

/-- What holds while the listener's handler runs, since it began in `a`. -/
structure Listening (size : Nat) (noted : List Ready) (served : List Nat) (a b : Service) :
    Prop where
  watches : Watches size noted served b
  onward : Onward a b

namespace Listening

theorem refl (h : Watches size noted served a) : Listening size noted served a a := ⟨h, .refl a⟩

variable (h : Listening size noted served a b)

include h

theorem count (stats : Stats) : Listening size noted served a { b with data := stats } :=
  ⟨h.watches.count stats, h.onward.effort, h.onward.pending, h.onward.listener, h.onward.due⟩

theorem log (level : Log.Level) (message : String) :
    Listening size noted served a { b with host := b.host.log level message } :=
  ⟨h.watches.log level message, h.onward.effort, h.onward.pending, h.onward.listener, h.onward.due⟩

theorem refused {e : Error} (haccept : b.server.accept () b.host = (.error e, b.server, h')) :
    Listening size noted served a { b with host := h' } :=
  ⟨h.watches.refused haccept, h.onward.trans (h.watches.refused_onward haccept)⟩

theorem admitted (haccept : b.server.accept () b.host = (.ok fd, s, h')) :
    Listening size noted served a
    { b with server := s.onConnection fd fun c => { c with status := watchMask }, host := h' } :=
  ⟨h.watches.admitted haccept, h.onward.trans (h.watches.admitted_onward haccept)⟩

end Listening

namespace Watches

/-- The loop that accepts clients, however it goes. -/
theorem acceptWithin_onward (h : Watches size noted served a) (limit : Nat) :
    ∃ b, Echo.acceptWithin limit a = .ok () b ∧ Listening size noted served a b :=
  acceptWithin_keeps (fun _ stats hb => hb.count stats)
    (fun _ level message hb => hb.log level message)
    (fun _ _ _ hb haccept => hb.refused haccept) (fun _ _ _ _ hb haccept => hb.admitted haccept)
      limit (.refl h)

/-- Where a client waits and a descriptor is left, the first attempt takes it. -/
theorem acceptWithin_lighter (h : Watches size noted served a) (hl : a.server.listener = some l)
    (hwaiting : 0 < a.server.pending a.host)
    (hfree : a.host.kernel.admits a.host.kernel.lowestFree = true) (limit : Nat) :
    ∃ b, Echo.acceptWithin (limit + 1) a = .ok () b ∧ Watches size noted served b ∧ Lighter a b
      ∧ ∀ r, Due r a → Due r b := by
  obtain ⟨peer, first, k, haccepts, hregister⟩ := a.server.accept_of_waiting hl hwaiting hfree ()
  -- the first attempt takes the client that waits, and those after it add nothing
  refine acceptWithin_succ
    (P := fun b => Watches size noted served b ∧ Lighter a b ∧ ∀ r, Due r a → Due r b)
      ?_ ?_ ?_ ?_ ?_
  · rintro b stats ⟨hb, hlighter, hdue⟩
    exact ⟨hb.count stats, ⟨hlighter.effort, hlighter.pending, hlighter.listener⟩, hdue⟩
  · rintro b level message ⟨hb, hlighter, hdue⟩
    exact ⟨hb.log level message, ⟨hlighter.effort, hlighter.pending, hlighter.listener⟩, hdue⟩
  · rintro b ⟨hb, hlighter, hdue⟩
    obtain ⟨c, hok, ⟨hc, honward⟩⟩ := hb.acceptWithin_onward limit
    refine ⟨c, hok, hc, ⟨?_, ?_, honward.listener.trans hlighter.listener⟩,
      fun r hr => honward.due r (hdue r hr)⟩
    · exact Nat.lt_of_le_of_lt honward.effort hlighter.effort
    · exact Nat.lt_of_le_of_lt honward.pending hlighter.pending
  · intro e h' haccept
    obtain ⟨_, _, hresult, hkernel⟩ | ⟨_, _, hresult, _⟩ :=
      a.server.register_cases a.host.kernel.lowestFree peer ()
      { a.host with kernel := (k.setNonblocking a.host.kernel.lowestFree).2 }
    · cases (hregister.trans hresult).symm.trans haccept
      exact ⟨h.refused haccept, h.turnedAway hl haccepts hkernel,
        fun _ => h.turnedAway_due haccepts hkernel⟩
    · cases (hregister.trans hresult).symm.trans haccept
  · intro fd s h' haccept
    obtain ⟨_, _, hresult, _⟩ | ⟨_, _, hresult, _, hadmits, hkernel⟩ :=
      a.server.register_cases a.host.kernel.lowestFree peer ()
        { a.host with kernel := (k.setNonblocking a.host.kernel.lowestFree).2 }
    · cases (hregister.trans hresult).symm.trans haccept
    · cases (hregister.trans hresult).symm.trans haccept
      exact ⟨h.admitted haccept, h.letIn hl haccepts hadmits hkernel,
        fun _ => h.letIn_due haccepts hadmits hkernel⟩

/-- The listener's handler, when the wait found its listener ready or not. -/
theorem listener_onward (h : Watches size noted served a) :
    ∃ b, handlers.callListener a = .ok () b ∧ Listening size noted served a b :=
  callListener_keeps (fun _ stats hb => hb.count stats)
    (fun _ level message hb => hb.log level message)
    (fun _ _ _ hb haccept => hb.refused haccept) (fun _ _ _ _ hb haccept => hb.admitted haccept)
      (.refl h)

/-- Where a client waits and can get a descriptor, the call of the listener leaves less to
    do. -/
theorem listener_lighter (h : Watches size noted served a) (hl : a.server.listener = some l)
    (hreadable : (a.server.polled.result 0).isReadable = true)
    (hwaiting : 0 < a.server.pending a.host)
    (hfree : a.host.kernel.admits a.host.kernel.lowestFree = true) :
    ∃ b, handlers.callListener a = .ok () b ∧ Watches size noted served b ∧ Lighter a b
      ∧ ∀ r, Due r a → Due r b := by
  obtain ⟨message, hcall⟩ := callListener_of_readable hreadable
  rw [hcall]
  obtain ⟨b, hok, hb, hlighter, hdue⟩ :=
    (h.log .trace message).acceptWithin_lighter hl hwaiting hfree (a.server.pending a.host)
  exact ⟨b, hok, hb, ⟨hlighter.effort, hlighter.pending, hlighter.listener⟩, hdue⟩

/-! ## What a wait finds -/

/-- Of the listener a wait tells whether somebody waits in its queue. -/
theorem listener_result (h : Watches size noted served a) (hl : a.server.listener = some l)
    (hwait : a.server.wait a.host = (.ok n, s, h')) :
    s.polled.result 0 = if a.server.pending a.host = 0 then EventMask.empty else .readable := by
  have hpaired := (h.reachable.of_moment (.of_wait hwait)).paired
  obtain ⟨polled, hset, rfl⟩ := Server.wait_ok hwait
  obtain ⟨result, hfirst⟩ := hpaired.first l hl
  have hmem : (⟨l.fd, .listener, result⟩ : PollEntry) ∈ polled.toList := List.mem_of_head? hfirst
  have hresult : result = a.host.kernel.readiness l.fd .listener := PollSet.wait_result hset hmem
  have hlistens := h.listens l hl
  rw [PollSet.result_zero hfirst, hresult, hlistens.readiness_eq, pending_eq hl hlistens]
  cases a.host.kernel.references l.fd <;> rfl

/-- So it is called for if somebody waits. -/
theorem listener_ready (h : Watches size noted served a)
    (hwait : a.server.wait a.host = (.ok n, s, h')) (hready : (s.polled.result 0).isEmpty = false) :
    ∃ l, a.server.listener = some l ∧ 0 < a.server.pending a.host
      ∧ (s.polled.result 0).isReadable = true := by
  cases hl : a.server.listener with
  | none =>
      -- a server that is not bound has an empty set
      have hpaired := (h.reachable.of_moment (.of_wait hwait)).paired
      obtain ⟨polled, _, rfl⟩ := Server.wait_ok hwait
      have hnobody : polled.descriptors = [] := by
        have hwatched := hpaired.watched
        rw [hpaired.ended hl] at hwatched
        exact hwatched.trans (by rw [hl]; rfl)
      have hnothing : polled.result 0 = .empty := by
        rw [PollSet.result, PollSet.entry?, List.map_eq_nil_iff.mp hnobody]
        rfl
      rw [hnothing] at hready
      cases hready
  | some l =>
      have hresult := h.listener_result hl hwait
      by_cases hnobody : a.server.pending a.host = 0
      · rw [hresult, if_pos hnobody] at hready
        cases hready
      · rw [hresult, if_neg hnobody]
        exact ⟨l, rfl, Nat.pos_of_ne_zero hnobody, rfl⟩

/-- The result of the entry of a connection. -/
theorem connection_result (h : Watches size noted served a)
    (hwait : a.server.wait a.host = (.ok n, s, h'))
    {e : PollEntry} (he : e ∈ s.polled.toList) (hget : a.server.connections.get? e.fd = some c) :
    ∃ stream, a.host.kernel.stream? e.fd = some stream
      ∧ e.result = EventMask.reported (interestFor (c.status &&& watchMask)) stream.condition := by
  have hpaired := (h.reachable.of_moment (.of_wait hwait)).paired
  obtain ⟨stream, hstream, hreported⟩ := h.reported hwait hget
  have hresult := PollSet.reported?_of_mem hpaired.distinct he
  exact ⟨stream, hstream, Option.some.inj (hresult.symm.trans hreported)⟩

/-- What a wait notes is due. -/
theorem note_due (h : Watches size [] served a) (hwait : a.server.wait a.host = (.ok n, s, h'))
    (hnoted : List.Forall₂ s.Notes s.readyEntries noted) (hr : r ∈ noted) :
    Due r { a with server := s, host := h' } := by
  obtain ⟨e, he, c, hget, rfl⟩ := Server.notes_mem hnoted r hr
  obtain ⟨hbehind, hsome⟩ := List.mem_filter.mp he
  obtain ⟨_, _, _, hkernel⟩ := Server.wait_cases hwait
  have hbefore : a.server.connections.get? e.fd = some c := by
    obtain ⟨_, _, rfl⟩ := Server.wait_ok hwait
    exact hget
  obtain ⟨stream, hstream, hresult⟩ :=
    h.connection_result hwait (List.mem_of_mem_drop hbehind) hbefore
  refine ⟨c, stream, hget, rfl, ?_, hresult, ?_⟩
  · show h'.kernel.stream? e.fd = some stream
    rwa [hkernel]
  · rwa [Bool.not_eq_true'] at hsome

end Watches

/-! ## Rounds -/

/-- What holds in a round whose listener's handler left `x`, with those who are still to be
    served: they are due, and whoever had a turn took something off. -/
structure Midway (size : Nat) (noted : List Ready) (served : List Nat) (x : Service)
    (rest : List Ready) (a : Service) : Prop where
  watches : Watches size noted served a
  due : ∀ r ∈ rest, r ∈ noted ∧ Due r a
  distinct : (rest.map Ready.fd).Nodup
  effort : effort a + noted.length ≤ effort x + rest.length
  listener : a.server.listener = x.server.listener

namespace Midway

variable {x : Service} {rest : List Ready} (h : Midway size noted served x (r :: rest) a)

include h

/-- Nobody who is due is skipped. -/
theorem live : a.server.Live r.id := by
  obtain ⟨_, c, _, hget, hid, _⟩ := h.due r List.mem_cons_self
  exact ⟨_, Server.mem_roster_of_get? hget, hid⟩

/-- A turn leaves what is due for the others. -/
theorem call (hget : a.server.connections.get? r.fd = some c) (hid : c.id = r.id) :
    ∃ b, handlers.call c r a = .ok () b ∧ Midway size noted served x rest b := by
  obtain ⟨hmem, hready⟩ := h.due r List.mem_cons_self
  obtain ⟨b, hok, hcalls, hb⟩ := h.watches.call hmem hget hid
  have hlighter := h.watches.call_lighter hready hget hcalls
  have hlocal := hcalls.localTo h.watches.echoes.balanced.tidy
  have hdistinct := h.distinct
  have heffort := h.effort
  rw [List.map_cons, List.nodup_cons] at hdistinct
  rw [List.length_cons] at heffort
  refine ⟨b, hok, hb.of_subset (List.Subset.refl _) (List.subset_cons_self _ _), ?_, hdistinct.2,
    by omega, hcalls.listener.trans h.listener⟩
  intro r' hr'
  obtain ⟨hmem', hready'⟩ := h.due r' (List.mem_cons_of_mem _ hr')
  have hne : r'.fd ≠ r.fd := fun heq => hdistinct.1 (heq ▸ List.mem_map_of_mem hr')
  refine ⟨hmem', hready'.of_same ?_ ?_⟩
  · intro c' hget'
    exact (hcalls.get?_of_ne hne).trans hget'
  · intro s hs
    exact (hlocal.stream? r'.fd hne).trans hs

end Midway

namespace Watches

/-- The first part of a round: what the listener's handler leaves when the wait noted some
    connections. Where the listener was ready and a descriptor is left, that is less. -/
theorem listened (h : Watches size [] served a) (hwait : a.server.wait a.host = (.ok n, s, h'))
    (hnoted : List.Forall₂ s.Notes s.readyEntries noted) :
    ∃ x, handlers.callListener (Application.noting { a with server := s, host := h' } noted)
      = .ok () x
      ∧ Watches size noted served x ∧ (∀ r ∈ noted, Due r x)
      ∧ effort x ≤ effort a ∧ x.server.listener = a.server.listener
      ∧ ((s.polled.result 0).isEmpty = false →
        a.host.kernel.admits a.host.kernel.lowestFree = true →
          effort x < effort a ∧ x.server.pending x.host < a.server.pending a.host) := by
  have hwoken := (h.note hwait hnoted).noting noted
  have hdue : ∀ r ∈ noted, Due r (Application.noting { a with server := s, host := h' } noted) := by
    intro r hr
    exact (h.note_due hwait hnoted hr).of_same (fun _ hget => hget) fun _ hs => hs
  have hready := h.listener_ready hwait
  obtain ⟨polled, rfl, _, hkernel⟩ := Server.wait_cases hwait
  have halike : a.host.kernel.Alike h'.kernel := .of_files (by rw [hkernel]) (by rw [hkernel])
  have heffort :
      effort (Application.noting
        { a with server := { a.server with polled := polled }, host := h' } noted)
      = effort a := effort_quiet rfl rfl halike
  have hpending : a.server.pending h' = a.server.pending a.host := pending_alike h.listens halike
  -- whether a client waits that can be let in decides if there is less to do
  by_cases htakes : (polled.result 0).isEmpty = false
    ∧ a.host.kernel.admits a.host.kernel.lowestFree = true
  · obtain ⟨l, hl, hwaiting, hreadable⟩ := hready htakes.1
    have hfree : h'.kernel.admits h'.kernel.lowestFree = true := by
      rw [hkernel]
      exact htakes.2
    obtain ⟨x, hok, hx, hlighter, hkept⟩ :=
      hwoken.listener_lighter hl hreadable (hpending.symm ▸ hwaiting) hfree
    have hless : effort x < effort a := heffort ▸ hlighter.effort
    have hfewer : x.server.pending x.host < a.server.pending a.host := hpending ▸ hlighter.pending
    exact ⟨x, hok, hx, fun r hr => hkept r (hdue r hr), Nat.le_of_lt hless, hlighter.listener,
      fun _ _ => ⟨hless, hfewer⟩⟩
  · obtain ⟨x, hok, ⟨hx, honward⟩⟩ := hwoken.listener_onward
    refine ⟨x, hok, hx, fun r hr => honward.due r (hdue r hr), heffort ▸ honward.effort,
      honward.listener, ?_⟩
    exact fun hsome hfree => absurd ⟨hsome, hfree⟩ htakes

/-- In a round every turn is due, and what the wait found is taken off the effort. -/
theorem round_lighter (h : Watches size [] served a) (hwait : a.server.wait a.host = (.ok n, s, h'))
    (hnoted : List.Forall₂ s.Notes s.readyEntries noted)
    {outcome : Outcome Unit Unit Stats (Except Error Nat)}
    (hround : Round handlers n noted { a with server := s, host := h' } turns outcome) :
    (∀ t ∈ turns, t.ready ∈ noted ∧ Watches size noted served t.before ∧ Due t.ready t.before)
      ∧ ∃ b, outcome = .ok (.ok n) b ∧ b.server.listener = a.server.listener
          ∧ (a.host.kernel.admits a.host.kernel.lowestFree = true → effort b + n ≤ effort a) := by
  obtain ⟨x, hlistened, hx, hdue, hle, hlistener, hless⟩ := h.listened hwait hnoted
  have hpaired := (h.reachable.of_moment (.of_wait hwait)).paired
  have hstart : Midway size noted served x noted (x.noting []) :=
    ⟨hx.noting [], fun r hr => ⟨hr, hdue r hr⟩, hpaired.notes_fd_nodup hnoted, Nat.le_refl _, rfl⟩
  obtain ⟨hturns, b, hok, hend⟩ :=
    hround.steps (P := Midway size noted served x) ⟨x, hlistened, hstart⟩
    (fun _ _ _ hmidway hgone => absurd hmidway.live hgone)
      (fun _ _ _ _ hmidway hget hid => hmidway.call hget hid)
  refine ⟨?_, b.noting noted, hok, hend.listener.trans hlistener, ?_⟩
  · intro t ht
    obtain ⟨rest, hmidway⟩ := hturns t ht
    obtain ⟨hmem, hready⟩ := hmidway.due t.ready List.mem_cons_self
    exact ⟨hmem, hmidway.watches, hready⟩
  · -- what the wait found are the listener, if it was ready, and those noted
    intro hfree
    have hcount : n = noted.length + if (s.polled.result 0).isEmpty then 0 else 1 := by
      rw [← List.length_map (f := Ready.fd), Server.notes_fd hnoted, List.length_map,
        Server.readyEntries, ← PollSet.length_ready]
      exact Server.wait_ready hwait
    have heffort : effort b + noted.length ≤ effort x := hend.effort
    show effort b + n ≤ effort a
    cases hempty : (s.polled.result 0).isEmpty with
    | true =>
        rw [hempty, if_pos rfl] at hcount
        omega
    | false =>
        have htaken := (hless hempty hfree).1
        rw [hempty, if_neg Bool.false_ne_true] at hcount
        omega

/-- A round of a bound server answers what its wait found. -/
theorem poll_answers (h : Watches size [] served a) (hbound : a.server.isBound = true)
    (hwait : a.server.wait a.host = (.ok n, s, h')) :
    ∃ b, Server.poll handlers a = .ok (.ok n) b ∧ b.server.listener = a.server.listener := by
  obtain rfl | hn := Nat.eq_zero_or_pos n
  · refine ⟨_, Server.poll_of_nothing hbound hwait, ?_⟩
    obtain ⟨_, _, rfl⟩ := Server.wait_ok hwait
    rfl
  · obtain ⟨_, _, hnoted, hround⟩ := h.reachable.rounds hbound handlers_operate hwait hn
    obtain ⟨_, b, hok, hlistener, _⟩ := h.round_lighter hwait hnoted hround
    exact ⟨b, hok, hlistener⟩

/-- And what it answers is taken off the effort. -/
theorem poll_lighter (h : Watches size [] served a)
    (hfree : a.host.kernel.admits a.host.kernel.lowestFree = true)
    (hpoll : Server.poll handlers a = .ok (.ok n) b) : effort b + n ≤ effort a := by
  obtain ⟨hbound, s, h', hwait, hnone⟩ := h.reachable.poll_answered handlers_operate hpoll
  obtain rfl | hn := Nat.eq_zero_or_pos n
  · obtain ⟨polled, rfl, _, hkernel⟩ := Server.wait_cases hwait
    rw [hnone rfl]
    exact Nat.le_of_eq (effort_quiet rfl rfl (.of_files (by rw [hkernel]) (by rw [hkernel])))
  · obtain ⟨noted, turns, hnoted, hround⟩ := h.reachable.rounds hbound handlers_operate hwait hn
    obtain ⟨_, b', hok, _, hlighter⟩ := h.round_lighter hwait hnoted hround
    cases hpoll.symm.trans hok
    exact hlighter hfree

end Watches

/-! ## Rest -/

/-- Nobody waits, and whoever reads has got back everything that it sent. -/
structure AtRest (a : Service) : Prop where
  pending : a.server.pending a.host = 0
  returned : ∀ fd c, a.server.connections.get? fd = some c →
    ∃ stream, a.host.kernel.stream? fd = some stream
    ∧ (stream.stalled = false → c.input.isEmpty = true ∧ c.output.isEmpty = true
      ∧ stream.unread = []
        ∧ stream.handed = stream.arrived)

/-- A connection of which a wait has nothing to report, though its client reads. -/
theorem Carries.returned_of_nothing {stream : Stream} (h : Carries size stream c)
    (hstate : Tuned c ∨ Untouched c) (hreads : stream.stalled = false)
    (hnothing : (EventMask.reported (interestFor (c.status &&& watchMask)) stream.condition).isEmpty
      = true) :
    c.input.isEmpty = true ∧ c.output.isEmpty = true ∧ stream.unread = []
    ∧ stream.handed = stream.arrived := by
  have hwrites : has (c.status &&& watchMask) watchWrite = false := by
    rw [← Bool.not_eq_true]
    intro hwatched
    cases hnothing.symm.trans
      (EventMask.nonempty_of_contains (by decide) (reported_writable hwatched hreads))
  -- a connection that was only accepted would watch for a chance to send
  have htuned : Tuned c := by
    obtain htuned | huntouched := hstate
    · exact htuned
    · rw [huntouched.status] at hwrites
      cases hwrites
  have hwatches := htuned.watches.resolve_right (ne_true_of_eq_false hwrites)
  have hunread : stream.unread = [] := by
    by_contra hsome
    cases hnothing.symm.trans
      (EventMask.nonempty_of_contains (by decide) (reported_readable hwatches (.inl hsome)))
  rw [htuned.writes, Connection.hasPendingOutput, Bool.or_eq_false_iff, Bool.not_eq_false',
    Bool.not_eq_false'] at hwrites
  exact ⟨hwrites.2, hwrites.1, hunread, h.returned hwrites.1 hwrites.2 hunread⟩

/-- A wait that finds nothing leaves nothing to do. -/
theorem Watches.atRest (h : Watches size noted served a)
    (hwait : a.server.wait a.host = (.ok 0, s, h')) :
    AtRest a := by
  have hpaired := (h.reachable.of_moment (.of_wait hwait)).paired
  have hcount := Server.wait_ready hwait
  refine ⟨?_, ?_⟩
  · rw [PollSet.length_ready] at hcount
    cases hl : a.server.listener with
    | none =>
        rw [Server.pending, hl]
        rfl
    | some l =>
        have hresult := h.listener_result hl hwait
        by_contra hwaiting
        rw [if_neg hwaiting] at hresult
        rw [hresult] at hcount
        cases hcount
  -- an entry with an empty result: the stream has nothing to take and nothing can be sent
  · intro fd c hget
    obtain ⟨_, _, stream, hstream, hcarries⟩ := h.echoes.live fd c hget
    have hconnections : s.connections = a.server.connections := by
      obtain ⟨_, _, rfl⟩ := Server.wait_ok hwait
      rfl
    have hseat := Server.mem_roster_of_get? (hconnections.symm ▸ hget)
    obtain ⟨e, he, rfl⟩ := List.mem_map.mp (hpaired.mem_descriptors hseat)
    have hnothing : e.result.isEmpty = true := by
      have hnone := List.filter_eq_nil_iff.mp (List.length_eq_zero_iff.mp hcount.symm) e he
      rwa [Bool.not_eq_true, Bool.not_eq_false'] at hnone
    obtain ⟨_, hsame, hresult⟩ := h.connection_result hwait he hget
    obtain rfl := Option.some.inj (hstream.symm.trans hsame)
    refine ⟨stream, hstream, fun hreads => ?_⟩
    exact hcarries.returned_of_nothing (h.state e.fd c hget) hreads (hresult ▸ hnothing)

/-! ## The loop -/

/-- Some rounds, with the counts that they answer. Nobody connects and no client does
    anything; memory, limits and the log may change between them, but a descriptor can be
    given to a client that waits, and no wait fails. -/
inductive Undisturbed (a : Service) : List Nat → Service → Prop
  | none : Undisturbed a [] a
  | round {counts : List Nat} {n : Nat} {b c : Service} (h : Undisturbed a counts b)
      (hfree : b.host.kernel.admits b.host.kernel.lowestFree = true)
      (hpoll : Server.poll handlers b = .ok (.ok n) c) : Undisturbed a (counts ++ [n]) c
  | host {counts : List Nat} {b : Service} {h' : Host} (h : Undisturbed a counts b)
      (hfiles : h'.kernel.files = b.host.kernel.files)
      (hstreams : h'.kernel.streams = b.host.kernel.streams) :
      Undisturbed a counts { b with host := h' }
  | timeout {counts : List Nat} {b : Service} (h : Undisturbed a counts b) (timeout : Int) :
      Undisturbed a counts (after (onServer (·.setTimeout timeout)) b)

theorem Undisturbed.later (h : Undisturbed a counts b) : Later a b := by
  induction h with
  | none => exact .refl
  | round _ _ hpoll ih => exact ih.tail (after_eq_of_ok hpoll ▸ .round _)
  | host _ hfiles hstreams ih => exact ih.tail (.host _ hfiles hstreams)
  | timeout _ timeout ih => exact ih.tail (.timeout _ timeout)

/-- What rounds found is gone from the effort. -/
theorem Undisturbed.lighter (h : Undisturbed a counts b) (ha : Watches size [] served a) :
    effort b + counts.sum ≤ effort a := by
  -- on the rounds: each takes off as much as it answers, and nothing between them adds to it
  induction h with
  | none => exact Nat.le_refl _
  | @round counts n b c hbefore hfree hpoll ih =>
      have hlighter := (ha.later hbefore.later).poll_lighter hfree hpoll
      rw [List.sum_append, List.sum_singleton]
      omega
  | @host _ b h' _ hfiles hstreams ih =>
      have hsame : effort { b with host := h' } = effort b :=
        effort_quiet rfl rfl (.of_files hfiles hstreams)
      rwa [hsame]
  | @timeout _ b _ timeout ih =>
      have hsame : effort (after (onServer (·.setTimeout timeout)) b) = effort b :=
        effort_quiet rfl rfl (.of_files rfl rfl)
      rwa [hsame]

/-- How an echo server comes to rest when its clients leave it alone. -/
structure Quiesces (size : Nat) (a : Service) : Prop where
  /-- A call for a connection that was served before closes it, or takes a byte from its
      stream, or hands one over, or marks it closing for the first time. -/
  calls : ∀ turns, RoundTurns a turns → ∀ t ∈ turns, ∀ c,
    t.before.server.connections.get? t.ready.fd = some c → c.id = t.ready.id →
    Attended size a c.id →
      ∃ b, handlers.call c t.ready t.before = .ok () b
        ∧ (b.server.connections.get? t.ready.fd = none
          ∨ ∃ c' stream stream', b.server.connections.get? t.ready.fd = some c' ∧ c'.id = c.id
              ∧ t.before.host.kernel.stream? t.ready.fd = some stream
              ∧ b.host.kernel.stream? t.ready.fd = some stream' ∧ Advanced stream c stream' c')
  /-- A call for the listener takes a client from the queue at least. -/
  listens : ∀ n s h' noted, a.server.wait a.host = (.ok n, s, h') →
    List.Forall₂ s.Notes s.readyEntries noted →
    (s.polled.result 0).isEmpty = false → a.host.kernel.admits a.host.kernel.lowestFree = true →
      ∃ b, handlers.callListener (Application.noting { a with server := s, host := h' } noted)
        = .ok () b
        ∧ b.server.pending b.host < a.server.pending a.host
  /-- Rounds find no more than there is to do, and only so many find anything. -/
  rounds : ∀ counts b, Undisturbed a counts b → counts.sum ≤ effort a
    ∧ counts.countP (0 < ·) ≤ effort a
  /-- A round that finds nothing leaves nothing to do. -/
  rests : ∀ b, Server.poll handlers a = .ok (.ok 0) b → AtRest a ∧ AtRest b
  /-- And if rounds follow each other, one of the first of them finds nothing. -/
  settles : a.server.isBound = true →
    (∀ j, (rounded^[j] a).host.kernel.admits (rounded^[j] a).host.kernel.lowestFree = true
      ∧ ∃ n s h', (rounded^[j] a).server.wait (rounded^[j] a).host = (.ok n, s, h')) →
        ∃ j ≤ effort a, Server.poll handlers (rounded^[j] a) = .ok (.ok 0) (rounded^[j + 1] a)
          ∧ AtRest (rounded^[j + 1] a)

/-- There are no more rounds that had something to do than things that they did. -/
theorem countP_le_sum (counts : List Nat) : counts.countP (0 < ·) ≤ counts.sum := by
  induction counts with
  | nil => exact Nat.le_refl _
  | cons count rest ih =>
      rw [List.countP_cons, List.sum_cons]
      split
      · rename_i hpos
        rw [decide_eq_true_eq] at hpos
        omega
      · omega

/-- A round in which nothing was ready leaves the server at rest, as it was. -/
theorem Watches.rests (h : Watches size noted served a)
    (hpoll : Server.poll handlers a = .ok (.ok 0) b) :
    AtRest a ∧ AtRest b := by
  obtain ⟨_, s, h', hwait, hwoken⟩ := h.reachable.poll_answered handlers_operate hpoll
  have hrest := h.atRest hwait
  obtain ⟨polled, rfl, _, hkernel⟩ := Server.wait_cases hwait
  rw [hwoken rfl]
  refine ⟨hrest, ?_, ?_⟩
  · have hsame : a.server.pending h' = a.server.pending a.host :=
      pending_alike h.listens (.of_files (by rw [hkernel]) (by rw [hkernel]))
    exact hsame.trans hrest.pending
  · intro fd c hget
    show ∃ stream, h'.kernel.stream? fd = some stream ∧ _
    rw [hkernel]
    exact hrest.returned fd c hget

theorem later_rounded (a : Service) (j : Nat) : Later a (rounded^[j] a) := by
  induction j with
  | zero => exact .refl
  | succ j ih =>
      rw [Function.iterate_succ_apply']
      exact ih.tail (.round _)

/-- As long as rounds find something, each of them answers. -/
theorem Watches.busy {m : Nat} (h : Watches size [] served a) (hbound : a.server.isBound = true)
    (hrounds : ∀ j, (rounded^[j] a).host.kernel.admits (rounded^[j] a).host.kernel.lowestFree = true
      ∧ ∃ n s h', (rounded^[j] a).server.wait (rounded^[j] a).host = (.ok n, s, h'))
    (hbusy : ∀ j < m, Server.poll handlers (rounded^[j] a) ≠ .ok (.ok 0) (rounded^[j + 1] a)) :
    ∃ counts : List Nat, counts.length = m ∧ (∀ n ∈ counts, 0 < n)
      ∧ Undisturbed a counts (rounded^[m] a)
      ∧ (rounded^[m] a).server.listener = a.server.listener := by
  -- on the number of rounds, each of which answers and is not zero
  induction m with
  | zero => exact ⟨[], rfl, (fun _ hn => by cases hn), .none, rfl⟩
  | succ m ih =>
      obtain ⟨counts, hlength, hpositive, hcounts, hlistener⟩ :=
        ih fun j hj => hbusy j (Nat.lt_succ_of_lt hj)
      obtain ⟨hfree, n, s, h', hwait⟩ := hrounds m
      have hstill : (rounded^[m] a).server.isBound = true := by
        rw [Server.isBound, hlistener]
        exact hbound
      obtain ⟨b, hpoll, hsame⟩ := (h.later hcounts.later).poll_answers hstill hwait
      have hnext : rounded^[m + 1] a = b := by
        rw [Function.iterate_succ_apply']
        exact after_eq_of_ok hpoll
      have hsome : 0 < n := by
        refine Nat.pos_of_ne_zero fun hzero => hbusy m (Nat.lt_succ_self m) ?_
        rw [hnext, hpoll, hzero]
      rw [hnext]
      refine ⟨counts ++ [n], ?_, ?_, hcounts.round hfree hpoll, hsame.trans hlistener⟩
      · rw [List.length_append, hlength]
        rfl
      · intro count hcount
        obtain hold | hlast := List.mem_append.mp hcount
        · exact hpositive count hold
        · rwa [List.mem_singleton.mp hlast]

/-- The echo loop comes to rest, from every system of every run. -/
theorem running_quiesces (h : Running size a) : Quiesces size a := by
  have hwatches := h.watches
  have hbusy : ∀ counts b, Undisturbed a counts b → counts.sum ≤ effort a
      ∧ counts.countP (0 < ·) ≤ effort a := by
    intro counts b hcounts
    have hlighter := hcounts.lighter hwatches
    have hcount := countP_le_sum counts
    exact ⟨by omega, by omega⟩
  refine ⟨?_, ?_, hbusy, fun b hpoll => hwatches.rests hpoll, ?_⟩
  · rintro turns ⟨n, s, h', noted, _, hwait, _, hnoted, hround⟩ t ht c hget hid hattended
    obtain ⟨hturns, _⟩ := hattended.watches.round_lighter hwait hnoted hround
    obtain ⟨hmem, hbefore, hdue⟩ := hturns t ht
    have htuned := hbefore.tuned_of_attended hget List.mem_cons_self
    obtain ⟨b, hok, hcalls, _⟩ := hbefore.call hmem hget hid
    refine ⟨b, hok, ?_⟩
    obtain herased | ⟨c', stream, stream', hmodified, hsame, hs, hs', _, hadvances⟩ :=
      hbefore.call_cases hdue hget hcalls
    · rw [herased]
      exact .inl (DescriptorTable.get?_erase_self _ _)
    · refine .inr ⟨c', stream, stream', ?_, hsame, hs, hs', hadvances htuned⟩
      rw [hmodified, DescriptorTable.get?_modify_self, hget]
      rfl
  · intro n s h' noted hwait hnoted hsome hfree
    obtain ⟨b, hok, _, _, _, _, htakes⟩ := hwatches.listened hwait hnoted
    exact ⟨b, hok, (htakes hsome hfree).2⟩
  · intro hbound hrounds
    -- otherwise all of them would find something, and that is one too many
    by_contra hnever
    have hfinds : ∀ j < effort a + 1, Server.poll handlers (rounded^[j] a) ≠ .ok (.ok 0)
        (rounded^[j + 1] a) := by
      intro j hj hpoll
      have hrest := ((hwatches.later (later_rounded a j)).rests hpoll).2
      exact hnever ⟨j, Nat.le_of_lt_succ hj, hpoll, hrest⟩
    obtain ⟨counts, hlength, hpositive, hcounts, _⟩ := hwatches.busy hbound hrounds hfinds
    obtain ⟨_, hfew⟩ := hbusy counts _ hcounts
    rw [List.countP_eq_length.mpr fun n hn => decide_eq_true (hpositive n hn), hlength] at hfew
    omega

/-! ## A client that reads again -/

/-- What a round answers, if it does. -/
def answered? (a : Service) : Option Nat :=
  match Server.poll handlers a with
  | .ok (.ok n) _ => some n
  | _ => none

/-- The answer of a round is what its poll returned. -/
theorem poll_of_answered (h : answered? a = some n) :
    Server.poll handlers a = .ok (.ok n) (rounded a) := by
  rw [answered?] at h
  split at h
  · rename_i hpoll
    obtain rfl := Option.some.inj h
    rw [hpoll, rounded, after_eq_of_ok hpoll]
  · cases h

theorem Loopback.narrow_attended (h : Loopback.narrow? = some a) : Attended 4 a 1 := by
  obtain ⟨stalled, hstalled, rfl⟩ := Option.map_eq_some_iff.mp h
  obtain ⟨start, hstart, rfl⟩ := Option.map_eq_some_iff.mp hstalled
  have hwaiting : Loopback.waiting? = some (rounded <| acted 0 (·.setStalled true) <|
      acted 0 (·.peerSend [1, 2, 3, 4, 5, 6, 7, 8, 9, 10]) start.visit) := by
    rw [Loopback.waiting?, hstart]
    rfl
  obtain ⟨x, turns, t, c, hrun, hturns, ht, hget, hid, hr, hlater⟩ :=
    Loopback.waiting_attended hwaiting
  have hstalled := (hlater.tail (.round _)).tail (.windowed _ 0 none)
  exact ⟨x, turns, t, c, hrun, hturns, ht, hget, hid, hr, hstalled.tail (.windowed _ 0 (some 3))⟩

/-- Two rounds that find something, and a third that finds nothing. -/
theorem undisturbed_three
    (hfree : ((List.range 3).map fun j =>
      (rounded^[j] a).host.kernel.admits (rounded^[j] a).host.kernel.lowestFree)
        = [true, true, true])
    (hanswers : ((List.range 3).map fun j => answered? (rounded^[j] a)) = [some 1,
      some 1, some 0]) :
    Undisturbed a [1, 1, 0] (rounded^[3] a) := by
  simp only [List.range, List.range.loop, List.map_cons, List.map_nil, List.cons.injEq, and_true]
    at hfree hanswers
  obtain ⟨hfree₀, hfree₁, hfree₂⟩ := hfree
  obtain ⟨hone₀, hone₁, hnone⟩ := hanswers
  have hfirst : Undisturbed a [1] (rounded a) :=
    Undisturbed.none.round hfree₀ (poll_of_answered hone₀)
  have hsecond : Undisturbed a [1, 1] (rounded^[2] a) :=
    hfirst.round hfree₁ (poll_of_answered hone₁)
  exact hsecond.round hfree₂ (poll_of_answered hnone)

/-- Eight bytes are held, two are unread, and there is room for three. The first round sends
    three of the output's four bytes, the second one takes the two, and then the server is at
    rest with seven bytes held. Once the client reads on, two more rounds find something,
    and at rest all ten bytes went back. -/
theorem running_quiesces_narrow : ∃ (app on : Service) (t : EventLoop.Turn Unit Unit Stats)
    (c : Connection Unit),
    Loopback.narrow? = some app ∧ Running 4 app ∧ effort app = 14
      ∧ RoundTurns app [t] ∧ t.before.server.connections.get? t.ready.fd = some c
      ∧ Attended 4 app c.id
      ∧ (∃ b, handlers.call c t.ready t.before = .ok () b
          ∧ (b.server.connections.get? t.ready.fd = none
            ∨ ∃ c' stream stream', b.server.connections.get? t.ready.fd = some c' ∧ c'.id = c.id
                ∧ t.before.host.kernel.stream? t.ready.fd = some stream
                ∧ b.host.kernel.stream? t.ready.fd = some stream' ∧ Advanced stream c stream' c'))
      ∧ Undisturbed app [1, 1, 0] (rounded^[3] app) ∧ AtRest (rounded^[3] app)
      ∧ ((rounded^[3] app).host.kernel.stream? 4).map Stream.handed = some [1, 2, 3]
      ∧ on = acted 0 (·.setWindow none) (rounded^[3] app) ∧ Running 4 on
      ∧ Undisturbed on [1, 1, 0] (rounded^[3] on) ∧ AtRest (rounded^[3] on)
      ∧ ((rounded^[3] on).host.kernel.stream? 4).map Stream.handed
          = some [1, 2, 3, 4, 5, 6, 7, 8, 9, 10] := by
  have heffort : Loopback.narrow?.map effort = some 14 := by decide +kernel
  have hready : Loopback.narrow?.map (fun a => (a.server.isBound, (a.server.wait a.host).1,
      (woken a).server.readyEntries.map PollEntry.fd, ((woken a).server.polled.result 0).isEmpty))
        = some (true, .ok 1, [4], true) := by decide +kernel
  have hlive :
      Loopback.narrow?.map (fun a => ((woken a).server.connections.get? 4).map Connection.id)
      = some (some 1) := by decide +kernel
  have hfree : Loopback.narrow?.map (fun a => (List.range 3).map fun j =>
      (rounded^[j] a).host.kernel.admits (rounded^[j] a).host.kernel.lowestFree)
        = some [true, true, true] := by decide +kernel
  have hanswers :
      Loopback.narrow?.map (fun a => (List.range 3).map fun j => answered? (rounded^[j] a))
      = some [some 1, some 1, some 0] := by decide +kernel
  -- the three rounds of the narrow run, by evaluation
  have hhanded :
      Loopback.narrow?.map (fun a => ((rounded^[3] a).host.kernel.stream? 4).map Stream.handed)
      = some (some [1, 2, 3]) := by decide +kernel
  -- and three more, after the client has made room for everything
  have hfree' :
      (Loopback.narrow?.map fun a => acted 0 (·.setWindow none) (rounded^[3] a)).map (fun a =>
        (List.range 3).map fun j =>
          (rounded^[j] a).host.kernel.admits (rounded^[j] a).host.kernel.lowestFree)
      = some [true, true, true] := by decide +kernel
  have hanswers' :
      (Loopback.narrow?.map fun a => acted 0 (·.setWindow none) (rounded^[3] a)).map (fun a =>
        (List.range 3).map fun j => answered? (rounded^[j] a))
      = some [some 1, some 1, some 0] := by decide +kernel
  have hhanded' :
      (Loopback.narrow?.map fun a => acted 0 (·.setWindow none) (rounded^[3] a)).map (fun a =>
        ((rounded^[3] a).host.kernel.stream? 4).map Stream.handed)
      = some (some [1, 2, 3, 4, 5, 6, 7, 8, 9, 10]) := by decide +kernel
  obtain ⟨app, happ, heffort⟩ := Option.map_eq_some_iff.mp heffort
  rw [happ, Option.map_some, Option.some.injEq] at hready hlive hfree hanswers hhanded
  rw [happ, Option.map_some, Option.map_some, Option.some.injEq] at hfree' hanswers' hhanded'
  have hrun := Loopback.narrow_running happ
  have hattended := Loopback.narrow_attended happ
  obtain ⟨t, c, hturns, _, hget, hid, hone⟩ := hrun.turn_of_alone hready hlive
  rw [← hone, ← hid] at hattended
  have hcalls :=
    (running_quiesces hrun).calls [t] hturns t (List.mem_singleton_self t) c hget hid hattended
  have hthree := undisturbed_three hfree hanswers
  have hrest : AtRest (rounded^[3] app) := by
    have hrounds := (hrun.next (.round _)).next (.round _)
    simp only [List.range, List.range.loop, List.map_cons, List.map_nil,
      List.cons.injEq] at hanswers
    exact ((running_quiesces hrounds).rests _ (poll_of_answered hanswers.2.2.1)).2
  have hon : Running 4 (acted 0 (·.setWindow none) (rounded^[3] app)) :=
    (((hrun.next (.round _)).next (.round _)).next (.round _)).next (.windowed _ 0 none)
  have hrest' : AtRest (rounded^[3] (acted 0 (·.setWindow none) (rounded^[3] app))) := by
    have hrounds := (hon.next (.round _)).next (.round _)
    simp only [List.range, List.range.loop, List.map_cons, List.map_nil,
      List.cons.injEq] at hanswers'
    exact ((running_quiesces hrounds).rests _ (poll_of_answered hanswers'.2.2.1)).2
  exact ⟨app, _, t, c, happ, hrun, heffort, hturns, hget, hattended, hcalls, hthree, hrest, hhanded,
    rfl, hon, undisturbed_three hfree' hanswers', hrest', hhanded'⟩

end EventLoop.Echo
