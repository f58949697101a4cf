import EventLoop.Proofs.Server.Pairing
import Mathlib.Logic.Function.Iterate

/-! # Rounds find every connection

    A round looks every ready descriptor up in the table, and ends the program when
    one has no connection. Since set and table go together it finds all of them
    (`Paired.readyConnections`).

    * Handlers are `Sound` when they lead from reachable systems to reachable ones
      and raise no such panic of their own. A round of sound handlers is sound
      (`poll_sound`), so that rounds may be nested to any depth.
    * `set_matches_table` says of all reachable systems what set and table hold. -/

namespace EventLoop

open Application

variable {L C D : Type} {a b : Application L C D}

/-- What succeeds for every element succeeds for the list, element by element. -/
theorem mapM_forall₂ {α β ε : Type} {f : α → Except ε β} {R : α → β → Prop} {xs : List α}
    (h : ∀ x ∈ xs, ∃ y, f x = .ok y ∧ R x y) : ∃ ys, xs.mapM f = .ok ys ∧ List.Forall₂ R xs ys := by
  induction xs with
  | nil => exact ⟨[], rfl, .nil⟩
  | cons x rest ih =>
      obtain ⟨y, hy, hxy⟩ := h x List.mem_cons_self
      obtain ⟨ys, hys, hall⟩ := ih fun x' hx' => h x' (List.mem_cons_of_mem _ hx')
      refine ⟨y :: ys, ?_, .cons hxy hall⟩
      rw [List.mapM_cons, hy, hys]
      rfl

/-- The entries of connections that the last wait found ready. -/
def Server.readyEntries (s : Server L C) : List PollEntry :=
  (s.polled.toList.drop 1).filter fun e => !e.result.isEmpty

/-- What is noted of a ready entry: its descriptor, the id of the connection found
    under it, and its result. -/
def Server.Notes (s : Server L C) (e : PollEntry) (r : Ready) : Prop :=
  ∃ c, s.connections.get? e.fd = some c ∧ r = ⟨e.fd, c.id, e.result⟩

namespace Paired

/-- The entries behind the listener's are those of the connections. -/
theorem connection_of_entry (h : Paired a) {e : PollEntry}
    (he : e ∈ a.server.polled.toList.drop 1) :
    ∃ c, a.server.connections.get? e.fd = some c := by
  refine DescriptorTable.exists_get?_of_mem_keys ?_
  have hmem : e.fd ∈ a.server.polled.descriptors.drop 1 := by
    rw [PollSet.descriptors, ← List.map_drop]
    exact List.mem_map_of_mem he
  rw [h.watched] at hmem
  rw [Server.keys_eq_roster]
  -- without a listener there would be no entry at all
  cases hlistener : a.server.listener with
  | none =>
      rw [hlistener, h.ended hlistener] at hmem
      cases hmem
  | some l =>
      rw [hlistener] at hmem
      exact hmem

/-- A round finds the connection of every ready entry. -/
theorem readyConnections (h : Paired a) :
    ∃ noted, a.server.readyConnections = .ok noted
      ∧ List.Forall₂ a.server.Notes a.server.readyEntries noted := by
  refine mapM_forall₂ ?_
  intro e he
  obtain ⟨c, hget⟩ := h.connection_of_entry (List.mem_filter.mp he).1
  exact ⟨⟨e.fd, c.id, e.result⟩, by rw [hget], c, hget, rfl⟩

end Paired

/-- From a reachable system the activity leads to a reachable one, and it does not
    panic over an unregistered descriptor. Only rounds raise that panic. -/
def Sound {α : Type} (act : Run L C D α) : Prop :=
  ∀ a, Reachable a → Reachable (after act a) ∧ ∀ fd b, act a ≠ .error (.unregistered fd) b

/-- Handlers whose calls are sound. -/
structure Handlers.Sound (handlers : Handlers L C D) : Prop where
  onListen : ∀ l events, EventLoop.Sound (handlers.onListen l events)
  onConnection : ∀ c fd events, EventLoop.Sound (handlers.onConnection c fd events)

theorem sound_pure {α : Type} (x : α) : Sound (pure x : Run L C D α) :=
  fun _ ha => ⟨ha, fun _ _ h => by cases h⟩

theorem sound_get : Sound (get : Run L C D (Application L C D)) :=
  fun _ ha => ⟨ha, fun _ _ h => by cases h⟩

/-- Sound activities can follow each other. -/
theorem sound_bind {α β : Type} {act : Run L C D α} {f : α → Run L C D β} (hact : Sound act)
    (hf : ∀ x, Sound (f x)) : Sound (act >>= f) := by
  intro a ha
  obtain ⟨hreach, hpanic⟩ := hact a ha
  cases hresult : act a with
  | ok x b =>
      rw [after_eq_of_ok hresult] at hreach
      rw [after_bind_of_ok hresult, bind_of_ok hresult]
      exact hf x b hreach
  | error p b =>
      rw [after_eq_of_error hresult] at hreach
      rw [after_eq_of_error (bind_of_error hresult), bind_of_error hresult]
      refine ⟨hreach, ?_⟩
      rintro fd b' ⟨⟩
      exact hpanic fd b hresult

/-- Steps are sound as long as they raise panics of their own only. -/
theorem Operates.sound {α : Type} {act : Run L C D α} (h : Operates act)
    (hpanic : ∀ a fd b, act a ≠ .error (.unregistered fd) b) : Sound act :=
  fun a ha => ⟨ha.of_operated (h a), hpanic a⟩

/-- A call that keeps systems reachable is sound. -/
theorem sound_run {α : Type} {f : Server L C → Host → α × Server L C × Host}
    (h : ∀ a : Application L C D, Reachable a → Reachable (after (run f) a)) :
    Sound (run f : Run L C D α) :=
  fun a ha => ⟨h a ha, fun _ _ herror => by cases herror⟩

theorem sound_run_of_step {α : Type} {f : Server L C → Host → α × Server L C × Host}
    (h : ∀ a : Application L C D, Step a (after (run f) a)) : Sound (run f : Run L C D α) :=
  sound_run fun a ha => ha.of_moment (.step (h a))

theorem sound_modify_of_step {f : Application L C D → Application L C D} (h : ∀ a, Step a (f a)) :
    Sound (modify f : Run L C D Unit) :=
  fun a ha => ⟨ha.of_moment (.step (h a)), fun _ _ herror => by cases herror⟩

theorem sound_log (level : Log.Level) (message : String) :
    Sound (log level message : Run L C D Unit) :=
  sound_modify_of_step fun a => .world a fun _ h => h

/-- Noting who is ready is sound. -/
theorem sound_note (noted : List Ready) :
    Sound (onServer fun s => { s with ready := noted } : Run L C D Unit) :=
  fun a ha => ⟨ha.of_moment (.note a noted), fun _ _ herror => by cases herror⟩

/-- Limits hold for a while, open nothing and close nothing. -/
theorem sound_within {α : Type} (limits : Limits) {act : Run L C D α} (h : Sound act) :
    Sound (within limits act) := by
  intro a ha
  obtain ⟨hreach, hpanic⟩ :=
    h _ (ha.of_moment (.step (.world a (h := a.host.limited limits) fun _ hfd => hfd)))
  rw [after, within]
  cases hresult : act { a with host := a.host.limited limits } with
  | ok x b =>
      rw [after_eq_of_ok hresult] at hreach
      refine ⟨hreach.of_moment (.step (.world b (h := b.host.limitedAs a.host) fun _ hfd => hfd)),
        ?_⟩
      exact fun _ _ herror => by cases herror
  | error p b =>
      rw [after_eq_of_error hresult] at hreach
      refine ⟨hreach.of_moment (.step (.world b (h := b.host.limitedAs a.host) fun _ hfd => hfd)),
        ?_⟩
      rintro fd b' ⟨⟩
      exact hpanic fd b hresult

namespace Server

variable {handlers : Handlers L C D}

theorem turn_sound (h : handlers.Sound) (r : Ready) : Sound (turn handlers r) := by
  intro a ha
  rw [after, turn]
  cases a.server.connections.get? r.fd with
  | none => exact sound_pure () a ha
  | some c =>
      by_cases hid : c.id = r.id
      · simp only [if_pos hid]
        exact sound_bind (sound_log _ _) (fun _ => h.onConnection _ _ _) a ha
      · simp only [if_neg hid]
        exact sound_pure () a ha

theorem dispatch_sound (h : handlers.Sound) (noted : List Ready) :
    Sound (dispatch handlers noted) := by
  induction noted with
  | nil => exact sound_pure ()
  | cons r rest ih =>
      rw [dispatch_cons]
      exact sound_bind (turn_sound h r) fun _ => ih

theorem dispatchListener_sound (h : handlers.Sound) : Sound (dispatchListener handlers) := by
  refine sound_bind sound_get ?_
  intro app
  by_cases hready : (!(app.server.polled.result 0).isEmpty) = true
  · simp only [if_pos hready]
    exact sound_bind (sound_log _ _) fun _ => h.onListen _ _
  · simp only [if_neg hready]
    exact sound_pure ()

/-- Serving is sound: the note can be written, since set and table go together. -/
theorem serveReady_sound (h : handlers.Sound) : Sound (serveReady handlers) := by
  intro a ha
  obtain ⟨noted, hnoted, _⟩ := ha.paired.readyConnections
  have hserve : Sound (serveNoted handlers noted) := by
    refine sound_bind (sound_note noted) fun _ => ?_
    refine sound_bind (dispatchListener_sound h) fun _ => ?_
    refine sound_bind sound_get fun served => ?_
    refine sound_bind (sound_note []) fun _ => ?_
    exact sound_bind (dispatch_sound h _) fun _ => sound_note _
  -- the other outcome, a descriptor without a connection, is the one that was excluded
  rw [after, serveReady_of_ok hnoted]
  exact hserve a ha

/-- A round of sound handlers is sound, and so are handlers that run such rounds. -/
theorem poll_sound (h : handlers.Sound) : Sound (poll handlers) := by
  intro a ha
  cases hbound : a.server.isBound with
  | false =>
      rw [after, poll_of_unbound hbound]
      exact sound_pure _ a ha
  | true =>
      rw [after, poll_of_bound hbound]
      refine sound_bind (sound_run fun b hb => hb.of_moment (.wait b)) ?_ a ha
      rintro (e | n | n)
      · exact sound_pure _
      · exact sound_pure _
      · exact sound_bind (serveReady_sound h) fun _ => sound_pure _

/-- Between the rounds the world may do anything but close descriptors. -/
theorem serve_sound {P : Type} (h : handlers.Sound) (allows : Server L C → D → P → Bool × P)
    {world : List (Host → Host)}
    (hworld : ∀ act ∈ world, ∀ h : Host, h.openDescriptors ⊆ (act h).openDescriptors) :
    ∀ p, Sound (serve handlers allows world p) := by
  -- on the acts of the world, one for each check
  induction world with
  | nil => exact fun p => sound_pure _
  | cons act world ih =>
      obtain ⟨hact, hworld⟩ := List.forall_mem_cons.mp hworld
      have ih := ih hworld
      intro p
      rw [serve]
      refine sound_bind (sound_modify_of_step fun a => .world a (hact a.host)) fun _ =>
        sound_bind sound_get ?_
      intro app
      rcases allows app.server app.data p with ⟨_ | _, p⟩
      · exact sound_pure _
      · refine sound_bind (poll_sound h) ?_
        rintro (e | n)
        · exact sound_pure _
        · exact ih p

/-! ## The pairing -/

/-- The descriptors that the set watches behind the first entry. -/
def watchedBehind (s : Server L C) : List Descriptor := (s.polled.toList.drop 1).map PollEntry.fd

/-- Set and table of a server with a listener: the listener is the first entry, and
    the entries behind it are those of the connections, one each. -/
structure Matched (s : Server L C) (l : Listener) : Prop where
  first : ∃ result, s.polled.entry? 0 = some ⟨l.fd, .listener, result⟩
  distinct : s.watchedBehind.Nodup
  others : l.fd ∉ s.watchedBehind
  keys : ∀ fd, fd ∈ s.watchedBehind ↔ fd ∈ s.connections.keys
  single : s.connections.keys.Nodup
  owned : ∀ fd c, s.connections.get? fd = some c → c.fd = fd
  count : s.polled.registered = s.connections.size + 1

end Server

/-- Where set and table go together, they match entry for entry. -/
theorem Paired.matched (h : Paired a) {l : Listener} (hl : a.server.listener = some l) :
    a.server.Matched l := by
  have hdescriptors : a.server.polled.descriptors = l.fd :: a.server.connections.keys := by
    rw [h.watched, hl, Server.keys_eq_roster]
    rfl
  -- dropping the listener leaves the keys of the table
  have hbehind : a.server.watchedBehind = a.server.connections.keys := by
    rw [Server.watchedBehind, List.map_drop]
    show a.server.polled.descriptors.drop 1 = _
    rw [hdescriptors]
    rfl
  have hdistinct := h.distinct
  rw [hdescriptors, List.nodup_cons] at hdistinct
  refine ⟨?_, ?_, ?_, ?_, hdistinct.2, ?_, ?_⟩
  · obtain ⟨result, hfirst⟩ := h.first l hl
    rw [List.head?_eq_getElem?] at hfirst
    exact ⟨result, hfirst⟩
  · rw [hbehind]
    exact hdistinct.2
  · rw [hbehind]
    exact hdistinct.1
  · intro fd
    rw [hbehind]
  · intro fd c hget
    exact h.owned _ (Server.mem_roster_of_get? hget)
  · rw [← PollSet.length_descriptors h.wellFormed, hdescriptors, List.length_cons,
      DescriptorTable.keys, List.length_map]
    rfl

/-- In every reachable system the set of a bound server holds the listener and then
    exactly the connections of the table, an ended server has neither entries nor
    connections, and a round of sound handlers does not panic over a descriptor that
    has no connection and leads to a reachable system again. -/
theorem set_matches_table (h : Reachable a) :
    (∀ l, a.server.listener = some l → a.server.Matched l)
      ∧ (a.server.listener = none → a.server.polled.toList = [] ∧ a.server.polled.registered = 0
        ∧ a.server.connections.entries = [])
      ∧ (∃ noted, a.server.readyConnections = .ok noted)
      ∧ ∀ handlers : Handlers L C D, handlers.Sound →
        Reachable (after (Server.poll handlers) a)
          ∧ ∀ fd b, Server.poll handlers a ≠ .error (.unregistered fd) b := by
  have hpaired := h.paired
  refine ⟨fun l hl => hpaired.matched hl, ?_, ?_,
    fun handlers hsound => Server.poll_sound hsound a h⟩
  · intro hnone
    have hroster := hpaired.ended hnone
    have hdescriptors := hpaired.watched
    rw [hnone, hroster] at hdescriptors
    refine ⟨List.map_eq_nil_iff.mp hdescriptors, ?_, List.map_eq_nil_iff.mp hroster⟩
    rw [← PollSet.length_descriptors hpaired.wellFormed, hdescriptors]
    rfl
  · obtain ⟨noted, hnoted, _⟩ := hpaired.readyConnections
    exact ⟨noted, hnoted⟩

/-! ## A server with clients -/

/-- A client connects to the address of the server. -/
def Application.visit (a : Application L C D) : Application L C D :=
  { a with host := { a.host with kernel := (a.host.kernel.connect a.server.localAddress).2 } }

theorem Step.visit (a : Application L C D) : Step a a.visit := by
  refine .world a ?_
  intro fd hfd
  show fd ∈ (a.host.kernel.connect a.server.localAddress).2.openDescriptors
  rw [Kernel.openDescriptors_connect]
  exact hfd

/-- A server for two clients on a host of its own. -/
def Loopback.bound? : Option (Application Unit Unit Unit) :=
  match Server.bind "127.0.0.1:0" () ⟨2, 16, 0, 8⟩ (Host.fresh .loopback (.withLevel .off)) with
  | (.ok s, h) => some ⟨s, h, ()⟩
  | (.error _, _) => none

/-- The same after some clients connected and some of them were accepted. -/
def Loopback.serving? (visits accepts : Nat) : Option (Application Unit Unit Unit) :=
  Loopback.bound?.map fun a => (after (run (·.accept ())))^[accepts] (Application.visit^[visits] a)

/-- One step over and over is a run of a program. -/
theorem operated_iterate {f : Application L C D → Application L C D} (hstep : ∀ a, Step a (f a))
    (n : Nat) (a : Application L C D) : Operated a (f^[n] a) := by
  induction n with
  | zero => exact .refl
  | succ n ih =>
      rw [Function.iterate_succ_apply']
      exact ih.tail (hstep _)

theorem Loopback.bind_of_bound {app : Application Unit Unit Unit} (h : Loopback.bound? = some app) :
    Server.bind "127.0.0.1:0" () ⟨2, 16, 0, 8⟩ (Host.fresh .loopback (.withLevel .off))
      = (.ok app.server, app.host) := by
  rw [Loopback.bound?] at h
  rcases hbind : Server.bind "127.0.0.1:0" () ⟨2, 16, 0, 8⟩ (Host.fresh .loopback (.withLevel .off))
    with ⟨e | s, h'⟩
  · rw [hbind] at h
    cases h
  · rw [hbind] at h
    obtain rfl := Option.some.inj h
    rfl

/-- Whoever is serving was bound and came there by steps. -/
theorem Loopback.serving_operated {visits accepts : Nat} {app : Application Unit Unit Unit}
    (h : Loopback.serving? visits accepts = some app) :
    ∃ start, Loopback.bound? = some start ∧ Operated start app := by
  obtain ⟨start, hbound, rfl⟩ := Option.map_eq_some_iff.mp h
  exact ⟨start, hbound, (operated_iterate Step.visit visits start).trans
    (operated_iterate (fun a => .accept a ()) accepts _)⟩

/-- However many clients came and were let in, a program can have that server. -/
theorem Loopback.serving_reachable {visits accepts : Nat} {app : Application Unit Unit Unit}
    (h : Loopback.serving? visits accepts = some app) : Reachable app := by
  obtain ⟨start, hbound, hsteps⟩ := Loopback.serving_operated h
  exact ⟨_, _, _, _, _, _, start.data, Loopback.bind_of_bound hbound, hsteps.reaches⟩

/-- Handlers under which the listener accepts a client and a connection is torn down
    by its first event. -/
def Loopback.handlers : Handlers Unit Unit Unit where
  onListen := fun _ _ => do
    let _ ← run (·.accept ())
  onConnection := fun _ fd _ => do
    let _ ← run (·.disconnect fd)

theorem Loopback.handlers_operate : Loopback.handlers.Operate where
  onListen :=
    fun _ _ => operates_bind (operates_of_step fun a => .accept a ()) fun _ => operates_pure ()
  onConnection := fun _ fd _ =>
    operates_bind (operates_of_step fun a => .disconnect a fd) fun _ => operates_pure ()

theorem Loopback.handlers_sound : Loopback.handlers.Sound where
  onListen := fun l events => (handlers_operate.onListen l events).sound fun _ _ _ h => by cases h
  onConnection := fun c fd events => (handlers_operate.onConnection c fd events).sound
    fun _ _ _ h => by cases h

/-- One client accepted and one waiting: the set holds listener and connection, and
    a round in which both are served does not panic. -/
theorem set_matches_table_serving : ∃ (app : Application Unit Unit Unit) (l : Listener),
    Loopback.serving? 2 1 = some app ∧ app.server.listener = some l
    ∧ app.server.connections.keys = [4]
      ∧ app.server.Matched l
      ∧ ∀ fd b, Server.poll Loopback.handlers app ≠ .error (.unregistered fd) b := by
  have hserving : (Loopback.serving? 2 1).map (fun app =>
      (app.server.listener.isSome, app.server.connections.keys))
        = some (true, [4]) := by decide +kernel
  obtain ⟨app, happ, hparts⟩ := Option.map_eq_some_iff.mp hserving
  obtain ⟨hbound, hkeys⟩ := Prod.mk.injEq _ _ _ _ ▸ hparts
  obtain ⟨l, hl⟩ := Option.isSome_iff_exists.mp hbound
  obtain ⟨hmatched, _, _, hrounds⟩ := set_matches_table (Loopback.serving_reachable happ)
  exact ⟨app, l, happ, hl, hkeys, hmatched l hl, (hrounds _ Loopback.handlers_sound).2⟩

end EventLoop
