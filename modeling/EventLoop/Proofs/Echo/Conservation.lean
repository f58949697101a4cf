import EventLoop.Proofs.Echo.Runs

/-! # Echoing loses no bytes

    Each live connection has a stream of its own, and each byte taken from it was handed
    back, or waits in the output buffer, or behind that in the input buffer. So what a
    client receives is a prefix of what it sent, also when its connection is no more
    (`Conserves`).

    This holds between rounds and before each turn of a round (`running_conserves`). That
    there are such turns, one for each connection that is ready, is `Running.exists_turns`. -/

namespace EventLoop.Echo

open Application

variable {size : Nat} {settled : List (Nat × Bytes)} {noted : List Ready} {a : Service}

/-- Where the bytes of all clients are. -/
structure Conserves (size : Nat) (a : Service) : Prop where
  /-- What was taken on a live connection is what was handed back and then what its
      buffers hold, which keep their capacity. -/
  live : ∀ fd c, a.server.connections.get? fd = some c → c.fd = fd ∧ ∃ i s,
    a.host.kernel.index? fd = some i ∧ a.host.kernel.streams[i]? = some s
    ∧ s.taken ≤ s.arrived.length
      ∧ s.arrived.take s.taken = s.handed ++ c.output.toList ++ c.input.toList
      ∧ c.output.capacity = size ∧ c.input.capacity = size
      ∧ c.output.toList.length + c.input.toList.length ≤ 2 * size
  own : ∀ fd fd' i, a.host.kernel.index? fd = some i → a.host.kernel.index? fd' = some i → fd = fd'
  /-- What a client received and what it can receive now is a prefix of what it sent. -/
  delivered : ∀ (i : Nat) (s : Stream), a.host.kernel.streams[i]? = some s →
    s.received ++ s.peerReceive.1 <+: s.arrived

/-- A connection holds no more than its two buffers can. -/
theorem Carries.held_le {s : Stream} {c : Connection Unit} (h : Carries size s c) :
    c.output.toList.length + c.input.toList.length ≤ 2 * size := by
  have houtput := h.output.length_le
  have hinput := h.input.length_le
  rw [h.output_capacity] at houtput
  rw [h.input_capacity] at hinput
  rw [RingBuffer.length_toList h.output, RingBuffer.length_toList h.input]
  omega

/-- The invariant accounts for the bytes of every client. -/
theorem Echoes.conserves (h : Echoes size settled noted a) : Conserves size a := by
  constructor
  · intro fd c hget
    obtain ⟨hfd, _⟩ := h.live fd c hget
    obtain ⟨i, s, hjoins, hcarries⟩ := h.exists_stream hget
    exact ⟨hfd, i, s, hjoins.index, hjoins.stream, hcarries.sound.taken_le, hcarries.ledger,
      hcarries.output_capacity, hcarries.input_capacity, hcarries.held_le⟩
  · intro fd fd' i hindex hindex'
    exact h.balanced.tidy.single fd fd' i (Kernel.mem_references_of_index hindex)
      (Kernel.mem_references_of_index hindex')
  · intro i s hstream
    rw [s.received_peerReceive]
    exact (h.balanced.echoed i s hstream).2.handed_arrived

/-- In every run, with any clients and buffers of any size, no byte is lost, changed or
    put in another place: between rounds and before each turn of one. -/
theorem running_conserves (h : Running size a) :
    Conserves size a ∧ ∀ turns, RoundTurns a turns → ∀ t ∈ turns, Conserves size t.before := by
  refine ⟨h.echoes.conserves, ?_⟩
  rintro turns ⟨n, s, h', noted, _, hwait, hn, hnoted, hround⟩ t ht
  obtain ⟨hturns, _⟩ := (h.echoes.note hwait hnoted).round hround
  exact (hturns t ht).conserves

/-! ## A client that reads little -/

/-- An echo server with buffers of four bytes on a host of its own. -/
def Loopback.listening? : Option Service :=
  match Server.bind "127.0.0.1:0" () ⟨2, 4, 0, 8⟩ (Host.fresh .loopback (.withLevel .off)) with
  | (.ok s, h) => some ⟨s, h, .zero⟩
  | (.error _, _) => none

theorem Loopback.listening_running (h : Loopback.listening? = some a) : Running 4 a := by
  rw [Loopback.listening?] at h
  rcases hbind : Server.bind "127.0.0.1:0" () ⟨2, 4, 0, 8⟩ (Host.fresh .loopback (.withLevel .off))
    with ⟨e | s, h'⟩
  · rw [hbind] at h
    cases h
  · rw [hbind] at h
    obtain rfl := Option.some.inj h
    exact .start rfl rfl rfl hbind

/-- A client does something on its stream. -/
def acted (i : Nat) (f : Stream → Stream) (a : Service) : Service :=
  { a with host := { a.host with kernel := a.host.kernel.onStream i f } }

/-- The client of a stream makes room for so many bytes. -/
theorem Happens.windowed (a : Service) (i : Nat) (window : Option Nat) :
    Happens a (acted i (·.setWindow window) a) := .client a fun s _ => .window s window

/-- The system after a round. -/
def rounded (a : Service) : Service := after (Server.poll handlers) a

/-- A client that did not say that it is done sends something. -/
theorem Running.sent {i : Nat} (h : Running size a)
    (hsending : (a.host.kernel.streams[i]?).map Stream.peerEnd = some .sending) (data : Bytes) :
    Running size (acted i (·.peerSend data) a) := by
  refine h.next (.client a fun s hs => ?_)
  rw [hs] at hsending
  exact .send s data (Option.some.inj hsending)

/-- A client that just came sends something. -/
theorem Loopback.sent_running (h : Loopback.listening? = some a) (data : Bytes) :
    Running 4 (acted 0 (·.peerSend data) a.visit) := by
  have hsending :
      Loopback.listening?.map (fun a => (a.visit.host.kernel.streams[0]?).map Stream.peerEnd)
      = some (some .sending) := by decide +kernel
  rw [h, Option.map_some, Option.some.injEq] at hsending
  exact ((Loopback.listening_running h).next (.connect a _)).sent hsending data

/-- One client sent ten bytes while it did not read, some rounds went by, and now it reads
    again. -/
def Loopback.stalled? : Option Service :=
  Loopback.listening?.map fun a =>
    acted 0 (·.setStalled false) <| rounded^[3] <| acted 0 (·.setStalled true) <|
      acted 0 (·.peerSend [1, 2, 3, 4, 5, 6, 7, 8, 9, 10]) a.visit

theorem Loopback.stalled_running (h : Loopback.stalled? = some a) : Running 4 a := by
  obtain ⟨start, hstart, rfl⟩ := Option.map_eq_some_iff.mp h
  have hsent := Loopback.sent_running hstart [1, 2, 3, 4, 5, 6, 7, 8, 9, 10]
  have hstalled := hsent.next (.windowed _ 0 (some 0))
  have hrounds := ((hstalled.next (.round _)).next (.round _)).next (.round _)
  exact hrounds.next (.windowed _ 0 none)

/-- It reads again, but makes room for no more than three bytes. -/
def Loopback.narrow? : Option Service := Loopback.stalled?.map (acted 0 (·.setWindow (some 3)))

theorem Loopback.narrow_running (h : Loopback.narrow? = some a) : Running 4 a := by
  obtain ⟨stalled, hstalled, rfl⟩ := Option.map_eq_some_iff.mp h
  exact (Loopback.stalled_running hstalled).next (.windowed _ 0 (some 3))

/-- Eight bytes were taken, and the send of a round handed three of them back. The rest of
    the output stands at the end of its storage and goes on at the front. -/
theorem running_conserves_narrow : ∃ (app : Service) (c : Connection Unit) (s : Stream)
    (turns : List (EventLoop.Turn Unit Unit Stats)),
    Loopback.narrow?.map rounded = some app ∧ app.server.connections.get? 4 = some c
      ∧ app.host.kernel.streams[0]? = some s ∧ s.taken = 8 ∧ s.handed = [1, 2, 3]
      ∧ c.output.segments = ([4], [5, 6, 7]) ∧ c.input.toList = [8]
      ∧ Conserves 4 app ∧ RoundTurns app turns ∧ turns.map (fun t => t.ready.fd) = [4]
      ∧ ∀ t ∈ turns, Conserves 4 t.before := by
  have hbytes : (Loopback.narrow?.map rounded).map (fun a =>
      (a.host.kernel.streams[0]?).map (fun s => (s.taken, s.handed)))
        = some (some (8, [1, 2, 3])) := by decide +kernel
  have hbuffers : (Loopback.narrow?.map rounded).map (fun a =>
      (a.server.connections.get? 4).map (fun c => (c.output.segments, c.input.toList)))
        = some (some (([4], [5, 6, 7]), [8])) := by decide +kernel
  have hready : (Loopback.narrow?.map rounded).map (fun a =>
      (a.server.isBound, (a.server.wait a.host).1,
        (a.server.wait a.host).2.1.readyEntries.map PollEntry.fd)) = some (true, .ok 1, [4]) := by
    decide +kernel
  obtain ⟨app, happ, hparts⟩ := Option.map_eq_some_iff.mp hbytes
  rw [happ, Option.map_some, Option.some.injEq] at hbuffers hready
  simp only [Prod.mk.injEq, Option.map_eq_some_iff] at hparts hbuffers hready
  obtain ⟨s, hstream, htaken, hhanded⟩ := hparts
  obtain ⟨c, hget, houtput, hinput⟩ := hbuffers
  obtain ⟨hbound, hanswer, hready⟩ := hready
  have hrun : Running 4 app := by
    obtain ⟨narrow, hnarrow, rfl⟩ := Option.map_eq_some_iff.mp happ
    exact (Loopback.narrow_running hnarrow).next (.round _)
  rcases hwait : app.server.wait app.host with ⟨answer, s', h'⟩
  rw [hwait] at hanswer hready
  obtain rfl : answer = .ok 1 := hanswer
  obtain ⟨turns, hturns, hfds⟩ := hrun.exists_turns hbound hwait (by decide)
  obtain ⟨hnow, hmid⟩ := running_conserves hrun
  exact ⟨app, c, s, turns, happ, hget, hstream, htaken, hhanded, houtput, hinput,
    hnow, hturns, hfds.trans hready, hmid turns hturns⟩

end EventLoop.Echo
