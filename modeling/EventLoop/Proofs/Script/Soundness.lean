import EventLoop.Proofs.Server.Rounds
import EventLoop.Script.Playbook

/-! # Scripts are sound

    A script does to a server whatever can be done to one: it accepts under numbers
    the system lost track of, ends sessions and uses them after, runs rounds and
    loops in the middle of a round, and all this under limits. Nothing of it leads
    out of the reachable systems or makes a round panic over an unregistered
    descriptor (`act_sound`).

    * `useConnection_keeps`: the uses of a connection keep its id and its socket.
    * `perform_sound` takes the actions one by one. Of the handlers in nested
      rounds it asks that they are sound.
    * `handlers_sound` is by induction on how deep rounds can be nested. -/

namespace EventLoop.Script

open Application

variable {handlers : Handlers Label Label Playbook}

/-! ## Accepting -/

theorem acceptance_sound (r : Except Error Descriptor) : Sound (acceptance r) :=
  sound_bind sound_get fun _ => sound_pure _

theorem accept_sound (label : Label) : Sound (accept label) :=
  sound_bind (sound_run_of_step fun a => .accept a label) acceptance_sound

theorem acceptAll_sound (label : Label) (limit : Nat) : Sound (acceptAll label limit) := by
  -- on the number of clients that are let in at most
  induction limit with
  | zero => exact sound_pure _
  | succ limit ih =>
      rw [acceptAll]
      refine sound_bind (accept_sound label) ?_
      intro a
      split
      · exact sound_bind ih fun _ => sound_pure _
      · exact sound_bind ih fun _ => sound_pure _
      · exact sound_pure _

/-- Accepting under a number opens and closes at most what accepting does. -/
theorem acceptAt_step (a : Stage) (fd : Descriptor) (label : Label) :
    Step a (after (run (·.acceptAt fd label)) a) := by
  rw [after_run]
  by_cases hcontains : a.server.connections.contains fd = true
  · obtain ⟨e, h', hrefused, hopen⟩ := Server.acceptAt_refused hcontains label a.host
    rw [hrefused]
    exact .world a fun _ hfd => hopen ▸ hfd
  · rw [Server.acceptAt, if_neg hcontains]
    exact .accept a label

/-! ## Using connections -/

/-- A use of a connection keeps its id and its socket and everything open. -/
theorem useConnection_keeps (c : Connection Label) (h : Host) (use : Use) :
    (useConnection c h use).2.1.id = c.id ∧ (useConnection c h use).2.1.socket = c.socket
      ∧ (useConnection c h use).2.2.openDescriptors = h.openDescriptors := by
  cases use with
  | flush =>
      have hkeeps : (c.flush h).2.1.id = c.id ∧ (c.flush h).2.1.socket = c.socket
          ∧ (c.flush h).2.2.openDescriptors = h.openDescriptors :=
            ⟨rfl, rfl, c.openDescriptors_flush h⟩
      rw [useConnection]
      rcases hflush : c.flush h with ⟨e | n, c', h'⟩
      · rw [hflush] at hkeeps
        exact hkeeps
      · rw [hflush] at hkeeps
        exact hkeeps
  | receive =>
      have hkeeps : (c.receive h).2.1.id = c.id ∧ (c.receive h).2.1.socket = c.socket
          ∧ (c.receive h).2.2.openDescriptors = h.openDescriptors :=
            ⟨rfl, rfl, c.openDescriptors_receive h⟩
      rw [useConnection]
      rcases hreceive : c.receive h with ⟨e | n, c', h'⟩
      · rw [hreceive] at hkeeps
        exact hkeeps
      · rw [hreceive] at hkeeps
        exact hkeeps
  | _ => exact ⟨rfl, rfl, rfl⟩

/-- Something done to a connection that keeps its id and socket is a step, and
    nothing if there is no connection. -/
theorem onConnection_sound (fd : Descriptor)
    {f : Connection Label → Host → Report × Connection Label × Host}
    (hf : ∀ c h, (f c h).2.1.id = c.id ∧ (f c h).2.1.socket = c.socket
      ∧ (f c h).2.2.openDescriptors = h.openDescriptors) : Sound (onConnection fd f) := by
  refine sound_run ?_
  intro a ha
  rw [after_run]
  cases hget : a.server.connections.get? fd with
  | none => exact ha
  | some c =>
      obtain ⟨hid, hsocket, hopen⟩ := hf c a.host
      exact ha.of_moment (.step (.ofUse hget hid hsocket hopen))

/-! ## Using sessions -/

theorem connection_sound (session : Session) :
    Sound (session.connection : Play (Connection Label)) := by
  refine sound_bind sound_get ?_
  intro app
  cases app.server.connections.get? session.fd with
  | none => exact fun a ha => ⟨ha, fun fd b h => by cases h⟩
  | some c => exact sound_pure c

theorem setInterest_sound (session : Session) (interest : EventMask) :
    Sound (session.setInterest interest : Play (Except Error Unit)) :=
  sound_run_of_step fun a => .setInterest a session.fd interest

/-- Whatever a script does with a session, the server stays sound. -/
theorem useSession_sound (session : Session) (use : SessionUse) :
    Sound (useSession session use) := by
  cases use with
  | disconnect =>
      exact sound_bind (sound_run_of_step fun a => .disconnect a _) fun _ => sound_pure _
  | setInterest interest =>
      exact sound_bind (setInterest_sound session interest) fun _ => sound_pure _
  | connected => exact sound_bind (sound_bind sound_get fun _ => sound_pure _) fun _ => sound_pure _
  | count => exact sound_bind sound_get fun _ => sound_pure _
  | status => exact sound_bind (connection_sound session) fun _ => sound_pure _
  | setStatus status =>
      -- only a session whose connection is gone panics, and with a panic of its own
      refine sound_bind (sound_bind (connection_sound session) fun _ => ?_) fun _ => sound_pure _
      exact sound_modify_of_step fun a => .use a (fun _ _ => ⟨rfl, rfl⟩) fun _ hfd => hfd

/-! ## Actions -/

/-- A second server on the address is closed again, if it can be bound at all. -/
theorem bindAgain_sound : Sound (run bindAgain : Play Report) := by
  refine sound_run_of_step ?_
  intro a
  rw [after_run, bindAgain]
  obtain ⟨e, h', hbind, hopen⟩ | ⟨s, h', hbind, _, l, hl, hopen⟩ := Server.bind_cases (L := Label)
    (C := Label) a.server.localAddress.text .a a.server.config a.host
  · rw [hbind]
    exact .world a fun _ hfd => hopen ▸ hfd
  · rw [hbind]
    dsimp only
    rw [hl]
    refine .world a ?_
    intro fd hfd
    show fd ∈ (h'.close l.fd).openDescriptors
    rw [Host.openDescriptors_close, hopen, List.erase_cons_head]
    exact hfd

/-- One action of a script, nested rounds included, keeps the server sound. -/
theorem perform_sound (h : handlers.Sound) (session : Option Session) (action : Action) :
    Sound (perform handlers session action) := by
  -- on the nesting of limits: all other actions have nothing inside
  induction action with
  | accept label => exact sound_bind (accept_sound label) fun _ => sound_pure _
  | acceptAll label =>
      exact sound_bind sound_get fun _ => sound_bind (acceptAll_sound label _) fun _ => sound_pure _
  | acceptAt fd label =>
      refine sound_bind (sound_run_of_step fun a => acceptAt_step a fd label) fun r => ?_
      exact sound_bind (acceptance_sound r) fun _ => sound_pure _
  | disconnect fd =>
      exact sound_bind (sound_run_of_step fun a => .disconnect a _) fun _ => sound_pure _
  | setInterest fd interest => exact sound_bind (setInterest_sound _ interest) fun _ => sound_pure _
  | setTimeout timeout =>
      exact sound_bind (sound_modify_of_step fun a => .setTimeout a timeout) fun _ => sound_pure _
  | setListenHandler label =>
      exact sound_bind (sound_modify_of_step fun a => .setHandler a label) fun _ => sound_pure _
  | cleanup => exact sound_run_of_step fun a => .cleanup a
  | poll =>
      refine sound_bind (Server.poll_sound h) ?_
      rintro (e | n)
      · exact sound_pure _
      · exact sound_pure _
  | serve rounds =>
      refine sound_bind (Server.serve_sound h _ ?_ _) fun _ => sound_pure _
      intro act hact host
      rw [List.eq_of_mem_replicate hact]
      exact List.Subset.refl _
  | bindAgain => exact bindAgain_sound
  | inspect => exact sound_bind sound_get fun _ => sound_pure _
  | serverData use =>
      refine sound_run_of_step ?_
      exact fun a => .keep a (useData a.server.userData use).2
  | connectionData fd use => exact onConnection_sound fd fun _ _ => ⟨rfl, rfl, rfl⟩
  | connection fd use => exact onConnection_sound _ fun c h => useConnection_keeps c h use
  | session use =>
      cases session with
      | none => exact sound_pure _
      | some s => exact useSession_sound s use
  | limited limits action ih => exact sound_within limits ih

theorem note_sound (entry : Entry) : Sound (note entry) := sound_modify_of_step fun a => .data a _

theorem performAll_sound (h : handlers.Sound) (session : Option Session) (actions : List Action) :
    Sound (performAll handlers session actions) := by
  induction actions with
  | nil => exact sound_pure ()
  | cons action rest ih =>
      refine sound_bind (perform_sound h session action) fun r => ?_
      refine sound_bind (note_sound (.report r)) fun _ => ?_
      by_cases hend : action = .session .disconnect
      · rw [if_pos hend]
        exact sound_pure ()
      · rw [if_neg hend]
        exact ih

/-- Taking a list of actions out of the playbook changes data only. -/
theorem take_sound {α : Type} (take : Playbook → α × Playbook) :
    Sound (modifyGet fun app =>
      match take app.data with
      | (x, playbook) => (x, { app with data := playbook }) : Play α) :=
  fun a ha => ⟨ha.of_moment (.step (.data a (take a.data).2)), fun _ _ h => by cases h⟩

/-- Handlers that follow a playbook are sound, however deep their rounds are nested. -/
theorem handlers_sound (depth : Nat) : (Script.handlers depth).Sound := by
  -- on the depth of the rounds within rounds
  induction depth with
  | zero => exact ⟨fun _ _ => sound_pure (), fun _ _ _ => sound_pure ()⟩
  | succ depth ih =>
      refine ⟨?_, ?_⟩
      · intro label events
        refine sound_bind (note_sound _) fun _ => ?_
        exact sound_bind (take_sound Playbook.takeListen) fun actions =>
          performAll_sound ih none actions
      · intro label fd events
        refine sound_bind sound_get fun _ => ?_
        refine sound_bind (note_sound _) fun _ => ?_
        exact sound_bind (take_sound fun p => p.takeConnection fd) fun actions =>
          performAll_sound ih (some ⟨fd⟩) actions

/-- Whatever is done to a server by scripts leads to reachable systems and lets no
    round panic over an unregistered descriptor. -/
theorem act_sound (action : Action) : Sound (act action) :=
  sound_bind sound_get fun _ => perform_sound (handlers_sound _) none action

end EventLoop.Script
