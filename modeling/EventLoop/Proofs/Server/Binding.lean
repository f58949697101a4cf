import EventLoop.Proofs.Server.Effects

/-! # Binding on a bare host

    A server that is bound where nothing was open opens its listener and nothing else,
    and nobody has connected to it yet. Each call of the system that makes a listener
    has a lemma about the one file that is open then (`Kernel.Holds`); a listener that
    is made went through all of them. -/

namespace EventLoop

namespace Kernel

variable {k k' : Kernel} {fd : Descriptor} {address : Address} {handle : Handle}

/-- One file is open, and there are no streams. -/
structure Holds (k : Kernel) (fd : Descriptor) (handle : Handle) : Prop where
  streams : k.streams = []
  files : ∃ nonblocking, k.files = [(fd, ⟨handle, nonblocking⟩)]

theorem files_setFile_single {old : OpenFile} (file : OpenFile) (hfiles : k.files = [(fd, old)]) :
    (k.setFile fd file).files = [(fd, file)] := by
  show k.files.modify (k.files.findIdx (·.1 == fd)) _ = _
  rw [hfiles, List.findIdx_cons, beq_self_eq_true]
  rfl

namespace Holds

theorem socket (hstreams : k.streams = []) (hfiles : k.files = []) (hok : k.socket = (.ok fd, k')) :
    k'.Holds fd (.socket none) := by
  rw [Kernel.socket, openFile] at hok
  split at hok
  · cases hok
    refine ⟨hstreams, false, ?_⟩
    show _ :: k.files = _
    rw [hfiles]
  · cases hok

theorem bind {x : Unit} (h : k.Holds fd handle) (hok : k.bind fd address = (.ok x, k')) :
    ∃ bound, k'.Holds fd (.socket bound) := by
  obtain ⟨nonblocking, hfiles⟩ := h.files
  rw [Kernel.bind] at hok
  split at hok
  · cases hok
  · split at hok
    · cases hok
    · dsimp only at hok
      obtain rfl := (Prod.mk.inj hok).2
      -- the port of the system's choice changes neither files nor streams
      have hkept : (if address.port = 0 then { k with nextPort := k.nextPort + 1 } else k).files
          = [(fd, ⟨handle, nonblocking⟩)] := by
        split <;> exact hfiles
      refine ⟨_, ?_, false, files_setFile_single _ hkept⟩
      show (if address.port = 0 then _ else k).streams = []
      split <;> exact h.streams

theorem listen {bound : Option Address} {x : Unit} (h : k.Holds fd (.socket bound))
    (hok : k.listen fd = (.ok x, k')) : ∃ address, k'.Holds fd (.listener address []) := by
  obtain ⟨nonblocking, hfiles⟩ := h.files
  rw [Kernel.listen] at hok
  split at hok
  · obtain rfl := (Prod.mk.inj hok).2
    exact ⟨_, h.streams, _, files_setFile_single _ hfiles⟩
  · cases hok
  · cases hok

theorem setNonblocking (h : k.Holds fd handle) : (k.setNonblocking fd).2.Holds fd handle := by
  obtain ⟨nonblocking, hfiles⟩ := h.files
  have hfile : k.file? fd = some ⟨handle, nonblocking⟩ := by
    rw [file?, hfiles]
    exact List.lookup_cons_self
  rw [Kernel.setNonblocking, hfile]
  dsimp only
  split
  · exact h
  · exact ⟨h.streams, true, files_setFile_single _ hfiles⟩

end Holds

end Kernel

variable {α : Type} {h h' : Host} {x : α}

/-- A call that succeeds is the kernel's. -/
theorem Host.call_ok {name : String} {run : Kernel → Except Errno α × Kernel}
    (hok : h.call name run = (.ok x, h')) : run h.kernel = (.ok x, h'.kernel) := by
  rw [call] at hok
  rcases hrun : run h.kernel with ⟨e | y, k⟩
  · rw [hrun] at hok
    cases hok
  · rw [hrun] at hok
    cases hok
    rfl

/-- A step that succeeds needs no cleaning up. -/
theorem Listener.guarded_ok {fd : Descriptor} {step : Except Error α × Host}
    (hok : guarded fd step = (.ok x, h)) : step = (.ok x, h) := by
  rcases step with ⟨e | y, h₁⟩
  · cases hok
  · exact hok

/-- A socket that was prepared where it was the only file listens, and still is. -/
theorem Listener.prepare_holds {fd : Descriptor} {address bound : Address}
    (hholds : h.kernel.Holds fd (.socket none)) (hok : prepare fd address h = (.ok bound, h')) :
    ∃ listening, h'.kernel.Holds fd (.listener listening []) := by
  rw [prepare] at hok
  rcases hreuse : h.call "setsockopt(SO_REUSEADDR)" (·.reuseAddress fd) with ⟨e | _, h₁⟩
  · simp only [hreuse] at hok
    cases hok
  simp only [hreuse] at hok
  rcases hbind : h₁.call "bind" (·.bind fd address) with ⟨e | _, h₂⟩
  · simp only [hbind] at hok
    cases hok
  simp only [hbind] at hok
  rcases hlisten : h₂.call "listen" (·.listen fd) with ⟨e | _, h₃⟩
  · simp only [hlisten] at hok
    cases hok
  simp only [hlisten] at hok
  rcases hset : h₃.setNonblocking fd with ⟨e | _, h₄⟩
  · simp only [hset] at hok
    cases hok
  simp only [hset] at hok
  -- neither the first nor the last call changes the system
  have hfirst : h₁.kernel = h.kernel :=
    (congrArg Prod.snd (Host.call_ok hreuse)).symm.trans (Kernel.reuseAddress_snd _ fd)
  have hlast : h'.kernel = h₄.kernel :=
    (congrArg Prod.snd (Host.call_ok hok)).symm.trans (Kernel.ownAddress_snd _ fd)
  obtain ⟨_, hsocket⟩ := (hfirst ▸ hholds).bind (Host.call_ok hbind)
  obtain ⟨listening, hlistening⟩ := hsocket.listen (Host.call_ok hlisten)
  have hkept := hlistening.setNonblocking
  rw [← Host.kernel_setNonblocking, hset] at hkept
  exact ⟨listening, hlast ▸ hkept⟩

/-- A listener that was made is the only file there is, if there was none before. -/
theorem Listener.bindAddress_holds {address : Address} {l : Listener}
    (hstreams : h.kernel.streams = [])
    (hfiles : h.kernel.files = []) (hok : bindAddress address h = (.ok l, h')) :
    ∃ listening, h'.kernel.Holds l.fd (.listener listening []) := by
  rw [bindAddress] at hok
  rcases hsocket : h.call "socket" Kernel.socket with ⟨e | fd, h₁⟩
  · simp only [hsocket] at hok
    cases hok
  simp only [hsocket] at hok
  rcases hprepare : guarded fd (prepare fd address h₁) with ⟨e | bound, h₂⟩
  · simp only [hprepare] at hok
    cases hok
  simp only [hprepare] at hok
  cases hok
  have hholds := Kernel.Holds.socket hstreams hfiles (Host.call_ok hsocket)
  obtain ⟨listening, hlistens⟩ := prepare_holds hholds (guarded_ok hprepare)
  exact ⟨listening, hlistens⟩

/-- Binding a server on an empty system opens its listener and nothing else. -/
theorem Server.bind_holds {L C : Type} {address : String} {handler : L} {config : Config}
    {s : Server L C} (hstreams : h.kernel.streams = []) (hfiles : h.kernel.files = [])
    (hok : Server.bind address handler config h = (.ok s, h')) :
    s.config = config ∧ ∃ fd bound, h'.kernel.Holds fd (.listener bound []) := by
  have hbinds := Server.bind_binds (C := C) address handler config h
  rw [hok] at hbinds
  cases hbinds with
  | @bound l _ _ _ _ _ hlistener _ _ =>
      refine ⟨rfl, l.fd, ?_⟩
      rw [Listener.bind] at hlistener
      cases haddress : Address.parse address with
      | error e =>
          rw [haddress] at hlistener
          cases hlistener
      | ok parsed =>
          rw [haddress] at hlistener
          obtain ⟨bound, hholds⟩ := Listener.bindAddress_holds hstreams hfiles hlistener
          exact ⟨bound, hholds.streams, hholds.files⟩

end EventLoop
