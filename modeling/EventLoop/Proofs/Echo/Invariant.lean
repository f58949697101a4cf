import EventLoop.Echo.Service
import EventLoop.Proofs.Echo.Turn
import EventLoop.Proofs.Server.Effects

/-! # What an echo server keeps

    Each live connection accounts for the bytes of its own stream, all other streams are
    in order, and what was noted of the end of a stream is true (`Echoes`).

    A change is described by what becomes of each connection that is live afterwards
    (`Stays`): it is as before, or something happened on its stream, or it was just
    admitted. `Echoes.of_stays` is the only place where the invariant is put together;
    the lemmas after it are the changes that handlers, clients and the system make. -/

namespace EventLoop.Echo

open Kernel (Balanced)

variable {size : Nat} {settled settled' : List (Nat × Bytes)} {noted : List Ready} {a b : Service}
  {fd listener : Descriptor} {c : Connection Unit} {i first : Nat} {s s' : Stream} {k : Kernel}

/-- What holds in every run of an echo server, with some streams settled and some
    connections noted. -/
structure Echoes (size : Nat) (settled : List (Nat × Bytes)) (noted : List Ready) (a : Service) :
    Prop where
  balanced : Balanced settled a.host.kernel
  bufferSize : a.server.config.bufferSize = size
  /-- Under the number of a stream of its own stands each connection. -/
  live : ∀ fd c, a.server.connections.get? fd = some c → c.fd = fd ∧ c.id < a.server.nextId
    ∧ ∃ s, a.host.kernel.stream? fd = some s ∧ Carries size s c
  /-- A hangup was noted only of streams at fault. -/
  truthful : ∀ r ∈ noted, r.id < a.server.nextId ∧ ∀ c s, a.server.connections.get? r.fd = some c →
    c.id = r.id → a.host.kernel.stream? r.fd = some s → r.events.isClosed = true → s.fault ≠ .intact

/-- Where a connection that is live in `b` comes from. -/
inductive Stays (size : Nat) (a b : Service) (fd : Descriptor) (c : Connection Unit) : Prop
  | same (hget : a.server.connections.get? fd = some c)
      (hstream : ∀ s, a.host.kernel.stream? fd = some s → b.host.kernel.stream? fd = some s)
  | moved {old : Connection Unit} {s s' : Stream} (hget : a.server.connections.get? fd = some old)
      (hid : c.id = old.id) (hsocket : c.socket = old.socket)
      (hbefore : a.host.kernel.stream? fd = some s)
      (hafter : b.host.kernel.stream? fd = some s')
      (hfaulty : s.fault ≠ .intact → s'.fault ≠ .intact)
      (hcarries : Carries size s' c)
  | admitted {s : Stream} (hid : c.id = a.server.nextId) (hnext : c.id < b.server.nextId)
      (hfd : c.fd = fd)
      (hstream : b.host.kernel.stream? fd = some s) (hcarries : Carries size s c)

namespace Echoes

theorem of_stays (h : Echoes size settled noted a) (hbalanced : Balanced settled' b.host.kernel)
    (hsize : b.server.config.bufferSize = a.server.config.bufferSize)
    (hnext : a.server.nextId ≤ b.server.nextId)
    (hstays : ∀ fd c, b.server.connections.get? fd = some c → Stays size a b fd c) :
    Echoes size settled' noted b where
  balanced := hbalanced
  bufferSize := hsize.trans h.bufferSize
  live := by
    intro fd c hget
    cases hstays fd c hget with
    | same hold hstream =>
        obtain ⟨hfd, hid, s, hs, hcarries⟩ := h.live fd c hold
        exact ⟨hfd, Nat.lt_of_lt_of_le hid hnext, s, hstream s hs, hcarries⟩
    | moved hold hid hsocket _ hafter _ hcarries =>
        obtain ⟨hfd, hlt, _⟩ := h.live fd _ hold
        refine ⟨(congrArg Socket.fd hsocket).trans hfd, ?_, _, hafter, hcarries⟩
        rw [hid]
        exact Nat.lt_of_lt_of_le hlt hnext
    | admitted _ hlt hfd hstream hcarries => exact ⟨hfd, hlt, _, hstream, hcarries⟩
  truthful := by
    intro r hr
    obtain ⟨hlt, htold⟩ := h.truthful r hr
    refine ⟨Nat.lt_of_lt_of_le hlt hnext, fun c s hget hid hs hclosed => ?_⟩
    cases hstays r.fd c hget with
    | same hold hstream =>
        obtain ⟨_, _, s', hs', _⟩ := h.live r.fd c hold
        obtain rfl := Option.some.inj (hs.symm.trans (hstream s' hs'))
        exact htold c s hold hid hs' hclosed
    | moved hold hsame _ hbefore hafter hfaulty _ =>
        obtain rfl := Option.some.inj (hs.symm.trans hafter)
        exact hfaulty (htold _ _ hold (hsame ▸ hid) hbefore hclosed)
    | admitted hnew _ _ _ _ =>
        -- ids that were noted were given out before
        omega

theorem of_subset (h : Echoes size settled noted a) {noted' : List Ready}
    (hnoted : noted' ⊆ noted) :
    Echoes size settled noted' a :=
  ⟨h.balanced, h.bufferSize, h.live, fun r hr => h.truthful r (hnoted hr)⟩

/-- One more stream is settled. -/
theorem settle (h : Echoes size settled noted a) {data : Bytes}
    (hsettled : a.host.kernel.Settled i data) :
    Echoes size ((i, data) :: settled) noted a where
  balanced := by
    refine ⟨h.balanced.tidy, h.balanced.echoed, h.balanced.waiting, ?_⟩
    intro x hx
    rcases List.mem_cons.mp hx with rfl | hx
    · exact hsettled
    · exact h.balanced.settled x hx
  bufferSize := h.bufferSize
  live := h.live
  truthful := h.truthful

/-! ## Changes around the connections -/

variable (h : Echoes size settled noted a)

include h

/-- A live connection has its stream, and both account for its bytes. -/
theorem exists_stream (hget : a.server.connections.get? fd = some c) :
    ∃ i s, a.host.Joins fd i s ∧ Carries size s c := by
  obtain ⟨_, _, s, hs, hcarries⟩ := h.live fd c hget
  obtain ⟨i, hindex, hstream⟩ := Kernel.stream?_eq_some_iff.mp hs
  exact ⟨i, s, ⟨hindex, hstream⟩, hcarries⟩

/-- Neither connections nor files nor streams change. -/
theorem quiet (hconnections : b.server.connections = a.server.connections)
    (hconfig : b.server.config = a.server.config) (hnext : b.server.nextId = a.server.nextId)
    (halike : a.host.kernel.Alike b.host.kernel) : Echoes size settled noted b := by
  refine h.of_stays (h.balanced.alike halike) (by rw [hconfig]) (Nat.le_of_eq hnext.symm) ?_
  intro fd c hget
  refine .same (hconnections ▸ hget) fun s hs => ?_
  rw [halike.stream?_eq]
  exact hs

theorem log (level : Log.Level) (message : String) :
    Echoes size settled noted { a with host := a.host.log level message } :=
  h.quiet rfl rfl rfl (.of_files rfl rfl)

/-- A client does something. -/
theorem acts (hstream : a.host.kernel.streams[i]? = some s) (hacts : s.Acts s') :
    Echoes size settled noted
      { a with host := { a.host with kernel := a.host.kernel.setStream i s' } } := by
  refine h.of_stays (h.balanced.acts hstream hacts) rfl (Nat.le_refl _) fun fd c hget => ?_
  obtain ⟨j, t, hjoins, hcarries⟩ := h.exists_stream hget
  -- the client may be that of the connection or another one
  by_cases hj : j = i
  · subst hj
    obtain rfl := Option.some.inj (hstream.symm.trans hjoins.stream)
    exact .moved hget rfl rfl (Kernel.stream?_eq_some_iff.mpr ⟨j, hjoins.index, hstream⟩)
      (Kernel.stream?_setStream_self hjoins.index hstream) hacts.faulty (hcarries.acts hacts)
  · refine .same hget fun t' ht' => ?_
    obtain ⟨j', hindex, hother⟩ := Kernel.stream?_eq_some_iff.mp ht'
    obtain rfl := Option.some.inj (hjoins.index.symm.trans hindex)
    exact Kernel.stream?_eq_some_iff.mpr ⟨j, hindex,
      (Kernel.streams_setStream_of_ne s' hj).trans hother⟩

/-- A client that connects has no connection yet. -/
theorem connect (hconnects : a.host.kernel.Connects listener k) :
    Echoes size settled noted { a with host := { a.host with kernel := k } } :=
  h.of_stays (h.balanced.connect hconnects) rfl (Nat.le_refl _)
    fun _ _ hget => .same hget fun _ hs => hconnects.stream?_of_some hs

/-! ## Changes of connections -/

/-- The status of a connection is set, but it is not marked as closing. -/
theorem setStatus (fd : Descriptor) (f : Status → Status)
    (hclosing : ∀ c, a.server.connections.get? fd = some c → has (f c.status) closing = true →
      has c.status closing = true) :
    Echoes size settled noted
      { a with server := a.server.onConnection fd fun c => { c with status := f c.status } } := by
  refine h.of_stays h.balanced rfl (Nat.le_refl _) fun other c hget => ?_
  by_cases hne : other = fd
  · subst hne
    rw [Server.onConnection, DescriptorTable.get?_modify_self] at hget
    obtain ⟨old, hold, rfl⟩ := Option.map_eq_some_iff.mp hget
    obtain ⟨_, _, s, hs, hcarries⟩ := h.live other old hold
    refine .moved hold rfl rfl hs hs (fun hfault => hfault) ?_
    exact ⟨hcarries.sound, hcarries.held, hcarries.input, hcarries.output, hcarries.input_capacity,
      hcarries.output_capacity, hcarries.ledger,
      fun hset => hcarries.drained (hclosing old hold hset)⟩
  · rw [Server.onConnection, DescriptorTable.get?_modify_of_ne _ _ hne] at hget
    exact .same hget fun _ hs => hs

/-- A connection does something on its stream. -/
theorem serve {c' : Connection Unit} {h' : Host} {stats : Stats}
    (hget : a.server.connections.get? fd = some c) (hjoins : a.host.Joins fd i s)
    (hid : c'.id = c.id)
    (hsocket : c'.socket = c.socket) (hon : a.host.On i s' h') (hserved : s.Served s')
    (hcarries : Carries size s' c') :
    Echoes size settled noted ⟨a.server.onConnection fd fun _ => c', h', stats⟩ := by
  have hbalanced : Balanced settled h'.kernel := by
    rw [hon]
    exact h.balanced.serve hjoins.index hjoins.stream hserved hcarries.echoed
  refine h.of_stays hbalanced rfl (Nat.le_refl _) fun other t hother => ?_
  -- the connection itself has moved, and all others have their streams as before
  by_cases hne : other = fd
  · subst hne
    rw [Server.onConnection, DescriptorTable.get?_modify_self, hget] at hother
    obtain rfl := Option.some.inj hother
    refine .moved hget hid hsocket
      (Kernel.stream?_eq_some_iff.mpr ⟨i, hjoins.index, hjoins.stream⟩) ?_
      hserved.faulty hcarries
    show h'.kernel.stream? other = some s'
    rw [hon]
    exact Kernel.stream?_setStream_self hjoins.index hjoins.stream
  · rw [Server.onConnection, DescriptorTable.get?_modify_of_ne _ _ hne] at hother
    refine .same hother fun t' ht' => ?_
    show h'.kernel.stream? other = some t'
    rw [hon, h.balanced.tidy.stream?_setStream s' hjoins.index hne]
    exact ht'

/-- Files that no connection has afterwards are closed, and the connections that are left
    are as they were. -/
theorem release (hkernel : b.host.kernel = a.host.kernel.close fd)
    (hconfig : b.server.config = a.server.config) (hnext : b.server.nextId = a.server.nextId)
    (hleft : ∀ other c, b.server.connections.get? other = some c →
      other ≠ fd ∧ a.server.connections.get? other = some c) :
    Echoes size settled noted b := by
  have hbalanced : Balanced settled b.host.kernel := by
    rw [hkernel]
    exact h.balanced.close fd
  refine h.of_stays hbalanced (by rw [hconfig]) (Nat.le_of_eq hnext.symm) fun other c hget => ?_
  obtain ⟨hne, hold⟩ := hleft other c hget
  refine .same hold fun s hs => ?_
  rw [hkernel, h.balanced.tidy.stream?_close_of_ne hne]
  exact hs

/-! ## Accepting -/

/-- A descriptor that is free belongs to no connection. -/
theorem get?_of_fresh (hfresh : fd ∉ a.host.kernel.openDescriptors) :
    a.server.connections.get? fd = none := by
  cases hget : a.server.connections.get? fd with
  | none => rfl
  | some c =>
      obtain ⟨i, s, hjoins, _⟩ := h.exists_stream hget
      have hindex := hjoins.index
      rw [Kernel.index?_of_none (Kernel.file?_eq_none_iff.mpr hfresh)] at hindex
      cases hindex

/-- A stream is taken from the queue, and nobody is admitted with it yet. -/
theorem take (haccepts : a.host.kernel.Accepts listener fd first k) :
    Echoes size settled noted
      { a with host := { a.host with kernel := (k.setNonblocking fd).2 } } := by
  have halike := k.alike_setNonblocking fd
  refine h.of_stays ((h.balanced.accept haccepts).alike halike) rfl (Nat.le_refl _)
    fun other c hget => ?_
  have hne : other ≠ fd := by
    rintro rfl
    cases (h.get?_of_fresh haccepts.fresh).symm.trans hget
  refine .same hget fun s hs => ?_
  show (k.setNonblocking fd).2.stream? other = some s
  rw [halike.stream?_eq, haccepts.stream?_of_ne hne]
  exact hs

/-- An admitted connection has empty buffers, and its stream is as the client made it. -/
theorem newcomer_carries (haccepts : a.host.kernel.Accepts listener fd first k)
    (hpow : a.server.config.bufferSize.isPowerOfTwo) (peer : Address) :
    ∃ s, (k.setNonblocking fd).2.stream? fd = some s
      ∧ Carries size s (a.server.newcomer fd peer ()) := by
  obtain ⟨s, hs, hidle⟩ := h.balanced.idle_of_accept haccepts
  have hunmarked : has 0 closing = false := rfl
  have hlist : (RingBuffer.blank a.server.config.bufferSize).toList = [] :=
    RingBuffer.toList_blank hpow
  refine ⟨s, ?_, (h.balanced.echoed first s hs).1, hidle.held, RingBuffer.blank_wellFormed hpow,
    RingBuffer.blank_wellFormed hpow, ?_, ?_, ?_, fun hmarked => ?_⟩
  · rw [(k.alike_setNonblocking fd).stream?_eq]
    refine Kernel.stream?_eq_some_iff.mpr ⟨first, haccepts.index?_fd, ?_⟩
    rw [haccepts.streams]
    exact hs
  · exact (RingBuffer.capacity_blank _).trans h.bufferSize
  · exact (RingBuffer.capacity_blank _).trans h.bufferSize
  · rw [hidle.taken, hidle.handed]
    show [] = [] ++ (RingBuffer.blank _).toList ++ (RingBuffer.blank _).toList
    rw [hlist]
    rfl
  · cases hunmarked.symm.trans hmarked

/-- Whoever is admitted has taken nothing and handed nothing over. -/
theorem admission {server : Server Unit Unit} {host : Host}
    (haccepts : a.host.kernel.Accepts listener fd first k)
    (hadmits : a.server.Admits fd () server) (hkernel : host.kernel = (k.setNonblocking fd).2) :
    Echoes size settled noted { a with server := server, host := host } := by
  have htaken := h.take haccepts
  have hbalanced : Balanced settled host.kernel := hkernel ▸ htaken.balanced
  refine htaken.of_stays hbalanced (by rw [hadmits.config]) (hadmits.nextId ▸ Nat.le_succ _)
    fun other c hget => ?_
  obtain hold | ⟨_, rfl, peer, rfl⟩ := hadmits.get?_cases hget
  · refine .same hold fun s hs => ?_
    show host.kernel.stream? other = some s
    rw [hkernel]
    exact hs
  · obtain ⟨s, hs, hcarries⟩ := h.newcomer_carries haccepts hadmits.size peer
    refine .admitted rfl ?_ rfl ?_ hcarries
    · rw [hadmits.nextId]
      exact Nat.lt_succ_self _
    · show host.kernel.stream? other = some s
      rw [hkernel]
      exact hs

end Echoes

end EventLoop.Echo
