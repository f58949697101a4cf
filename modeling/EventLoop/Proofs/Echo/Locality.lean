import EventLoop.Proofs.Echo.Handlers
import EventLoop.Proofs.Socket.Locality

/-! # A turn knows its own connection only

    What becomes of a connection in its turn is told by the connection, its stream and the
    events. The rest of the host, and what was counted before, have no part in it, and only
    the stream is touched and something is added to the counters.

    * `Move`: what a part of a turn makes of the two, and what it counts.
    * `Local`: a part of a turn that is always the same move. One after the other such parts
      are such a part again (`local_bind`), and there is one lemma for each part.
    * `serve_local` is the whole turn. -/

namespace EventLoop.Echo

/-! ## Counting -/

namespace Stats

/-- What was counted in two stretches. -/
def plus (x y : Stats) : Stats :=
  ⟨x.accepts + y.accepts, x.rejected + y.rejected, x.recvs + y.recvs, x.sends + y.sends,
    x.closes + y.closes,
    x.bytesIn + y.bytesIn, x.bytesOut + y.bytesOut, x.errors + y.errors⟩

/-- In however many stretches it is counted, it comes to the same. -/
theorem plus_assoc (x y z : Stats) : (x.plus y).plus z = x.plus (y.plus z) := by
  simp only [plus, Nat.add_assoc]

theorem plus_comm (x y : Stats) : x.plus y = y.plus x := by
  simp only [plus, Nat.add_comm]

end Stats

namespace Turn

variable {t t' t'' : Turn} {c : Connection Unit} {s : Stream} {i : Nat} {events : EventMask}
  {part next : Turn → Outcome}

/-! ## Moves -/

/-- What a part of a turn makes of the connection and of its stream, and what it counts. -/
structure Move where
  connection : Connection Unit
  stream : Stream
  counts : Stats

/-- From the one point of a turn to the other it was this move, and nothing else but the log has
    changed. -/
structure Move.Leads (m : Move) (i : Nat) (t t' : Turn) : Prop where
  connection : t'.connection = m.connection
  touches : t.host.Touches i m.stream t'.host
  stats : t'.stats = t.stats.plus m.counts

/-- Two moves in a row. -/
def Move.andThen (m m' : Move) : Move := ⟨m'.connection, m'.stream, m.counts.plus m'.counts⟩

theorem Move.Leads.trans {m m' : Move} (h : m.Leads i t t') (h' : m'.Leads i t' t'') :
    (m.andThen m').Leads i t t'' where
  connection := h'.connection
  touches := h.touches.trans h'.touches
  stats := by rw [h'.stats, h.stats, Stats.plus_assoc]; rfl

/-- A move leaves the connection at its stream. -/
theorem Move.Leads.joins {m : Move} (h : m.Leads i t t') (hsocket : m.connection.socket = c.socket)
    (hjoins : t.host.Joins c.fd i s) : t'.host.Joins m.connection.fd i m.stream := by
  have hfd : m.connection.fd = c.fd := congrArg Socket.fd hsocket
  rw [hfd]
  exact hjoins.after h.touches.on

/-! ## Parts of a turn -/

/-- Whether the part fails, and the move that it is, depends on the connection and its stream
    only. -/
def Local (part : Turn → Outcome) : Prop :=
  ∀ (c : Connection Unit) (s : Stream), ∃ (ok : Bool) (m : Move), m.connection.socket = c.socket
    ∧ ∀ (i : Nat) (stats : Stats) (h : Host), h.Joins c.fd i s →
        (part ⟨c, stats, h⟩).toBool = ok
        ∧ m.Leads i ⟨c, stats, h⟩ (Outcome.left (part ⟨c, stats, h⟩))

/-- Two local parts make a local one. -/
theorem local_bind (hpart : Local part) (hnext : Local next) : Local fun t => part t >>= next := by
  intro c s
  obtain ⟨ok, m, hsocket, hpart⟩ := hpart c s
  cases ok with
  | false =>
      refine ⟨false, m, hsocket, fun i stats h hjoins => ?_⟩
      obtain ⟨hfails, hleads⟩ := hpart i stats h hjoins
      dsimp only
      cases hleft : part ⟨c, stats, h⟩ with
      | ok t =>
          rw [hleft] at hfails
          cases hfails
      | error t =>
          rw [hleft] at hleads
          exact ⟨rfl, hleads⟩
  | true =>
      obtain ⟨ok, m', hsocket', hnext⟩ := hnext m.connection m.stream
      refine ⟨ok, m.andThen m', hsocket'.trans hsocket, fun i stats h hjoins => ?_⟩
      obtain ⟨hgoes, hleads⟩ := hpart i stats h hjoins
      dsimp only
      cases hleft : part ⟨c, stats, h⟩ with
      | error t =>
          rw [hleft] at hgoes
          cases hgoes
      | ok t =>
          rw [hleft] at hleads
          obtain ⟨connection, stats', h'⟩ := t
          obtain rfl : connection = m.connection := hleads.connection
          obtain ⟨hok, hleads'⟩ := hnext i stats' h' (hleads.joins hsocket hjoins)
          exact ⟨hok, hleads.trans hleads'⟩

/-- A failure that was counted and logged. -/
def faulted : Stats := { Stats.zero with errors := 1 }

theorem fail_local : Local fail := by
  intro c s
  exact ⟨false, ⟨c, s, faulted⟩, rfl, fun i stats h hjoins => ⟨rfl, rfl, hjoins.touches, rfl⟩⟩

/-- What is counted for bytes that arrived. -/
def arrival (n : Nat) : Stats :=
  if n = 0 then .zero else { Stats.zero with recvs := 1, bytesIn := n }

theorem countReceived_eq (t : Turn) (n : Nat) :
    t.countReceived n = { t with stats := t.stats.plus (arrival n) } := by
  rw [countReceived, arrival]
  split <;> rfl

/-- Receiving is local. -/
theorem receive_local (events : EventMask) : Local (receive events) := by
  intro c s
  cases hreads : events.isReadable && !has c.status closing with
  | true =>
      rcases hfill : c.input.fillFrom Socket.alone s with ⟨r, input, s'⟩
      have hreceive : ∀ (i : Nat) (h : Host), h.Joins c.fd i s →
          ∃ h', c.receive h = (r, { c with input := input }, h') ∧ h.Touches i s' h' := by
        intro i h hjoins
        have halone := c.receive_alone hjoins
        rwa [hfill] at halone
      -- an error, bytes, nothing yet, or the end
      rcases r with e | count | - | -
      · refine ⟨false, ⟨{ c with input := input }, s', faulted⟩, rfl, fun i stats h hjoins => ?_⟩
        obtain ⟨h', hcall, htouches⟩ := hreceive i h hjoins
        rw [receive, if_pos hreads, hcall]
        exact ⟨rfl, rfl, ⟨htouches.on, htouches.memory⟩, rfl⟩
      · refine ⟨true, ⟨{ c with input := input }, s', arrival count⟩, rfl,
          fun i stats h hjoins => ?_⟩
        obtain ⟨h', hcall, htouches⟩ := hreceive i h hjoins
        rw [receive, if_pos hreads, hcall]
        dsimp only
        rw [countReceived_eq]
        exact ⟨rfl, rfl, htouches, rfl⟩
      · refine ⟨true, ⟨{ c with input := input }, s', .zero⟩, rfl, fun i stats h hjoins => ?_⟩
        obtain ⟨h', hcall, htouches⟩ := hreceive i h hjoins
        rw [receive, if_pos hreads, hcall]
        exact ⟨rfl, rfl, htouches, rfl⟩
      · refine ⟨true, ⟨{ c with input := input, status := c.status ||| closing }, s', .zero⟩, rfl,
          fun i stats h hjoins => ?_⟩
        obtain ⟨h', hcall, htouches⟩ := hreceive i h hjoins
        rw [receive, if_pos hreads, hcall]
        exact ⟨rfl, rfl, htouches, rfl⟩
  | false =>
      have hskips : ∀ (stats : Stats) (h : Host), receive events ⟨c, stats, h⟩
          = .ok (if events.isClosed then markClosing ⟨c, stats, h⟩ else ⟨c, stats, h⟩) := by
        intro stats h
        exact if_neg (by rw [hreads]; exact Bool.false_ne_true)
      -- nothing is received; the events alone may mark the connection
      cases hclosed : events.isClosed with
      | true =>
          refine ⟨true, ⟨{ c with status := c.status ||| closing }, s, .zero⟩, rfl,
            fun i stats h hjoins => ?_⟩
          rw [hskips, hclosed]
          exact ⟨rfl, rfl, hjoins.touches, rfl⟩
      | false =>
          refine ⟨true, ⟨c, s, .zero⟩, rfl, fun i stats h hjoins => ?_⟩
          rw [hskips, hclosed]
          exact ⟨rfl, rfl, hjoins.touches, rfl⟩

/-- The pump makes the same of a connection everywhere. -/
theorem exists_pumped (c : Connection Unit) : ∃ c', c'.socket = c.socket
    ∧ ∀ (stats : Stats) (h : Host), (⟨c, stats, h⟩ : Turn).pump = ⟨c', stats, h⟩ := by
  obtain ⟨input, output, hpump⟩ := pumpWithin_alone (c.input.length + 1) c
  refine ⟨{ c with input := input, output := output }, rfl, fun stats h => ?_⟩
  rw [pump, Echo.pump, hpump h]

theorem pump_local : Local fun t => .ok t.pump := by
  intro c s
  obtain ⟨c', hsocket, hpump⟩ := exists_pumped c
  refine ⟨true, ⟨c', s, .zero⟩, hsocket, fun i stats h hjoins => ?_⟩
  dsimp only
  rw [hpump]
  exact ⟨rfl, rfl, hjoins.touches, rfl⟩

theorem send_local : Local send := by
  intro c s
  cases hpending : c.hasPendingOutput with
  | true =>
      rcases hflush : c.output.flushTo Socket.alone s with ⟨r, output, s'⟩
      have hsend : ∀ (i : Nat) (h : Host), h.Joins c.fd i s →
          ∃ h', c.flush h = (r, { c with output := output }, h') ∧ h.Touches i s' h' := by
        intro i h hjoins
        have halone := c.flush_alone hjoins
        rwa [hflush] at halone
      -- an error, nothing taken, or some bytes, after which the input moves up
      rcases r with e | _ | count
      · refine ⟨false, ⟨{ c with output := output }, s', faulted⟩, rfl, fun i stats h hjoins => ?_⟩
        obtain ⟨h', hcall, htouches⟩ := hsend i h hjoins
        rw [send, if_pos hpending, hcall]
        exact ⟨rfl, rfl, ⟨htouches.on, htouches.memory⟩, rfl⟩
      · refine ⟨true, ⟨{ c with output := output }, s', .zero⟩, rfl, fun i stats h hjoins => ?_⟩
        obtain ⟨h', hcall, htouches⟩ := hsend i h hjoins
        rw [send, if_pos hpending, hcall]
        exact ⟨rfl, rfl, htouches, rfl⟩
      · obtain ⟨c', hsocket, hpump⟩ := exists_pumped { c with output := output }
        refine ⟨true, ⟨c', s', { Stats.zero with sends := 1, bytesOut := count + 1 }⟩, hsocket,
          fun i stats h hjoins => ?_⟩
        obtain ⟨h', hcall, htouches⟩ := hsend i h hjoins
        have hsent : send ⟨c, stats, h⟩
            = .ok (pump (countSent ⟨{ c with output := output }, stats, h'⟩ (count + 1))) := by
          rw [send, if_pos hpending, hcall]
          rfl
        rw [hsent, countSent, hpump]
        exact ⟨rfl, rfl, htouches, rfl⟩
  | false =>
      refine ⟨true, ⟨c, s, .zero⟩, rfl, fun i stats h hjoins => ?_⟩
      rw [send, if_neg (by rw [hpending]; exact Bool.false_ne_true)]
      exact ⟨rfl, rfl, hjoins.touches, rfl⟩

/-! ## The turn -/

/-- Whether a connection is kept, and what its turn makes of it, depends on the connection, its
    stream and the events only. -/
theorem serve_local (events : EventMask) (c : Connection Unit) (s : Stream) :
    ∃ (kept : Bool) (m : Move), m.connection.socket = c.socket ∧ ∀ (i : Nat)
    (stats : Stats) (h : Host),
      h.Joins c.fd i s → ∃ t, serve events ⟨c, stats, h⟩ = (kept, t)
      ∧ m.Leads i ⟨c, stats, h⟩ t := by
  have hlocal :
      Local (fun t => if events.intersects (EventMask.error ||| EventMask.invalid) then t.fail
      else do (← t.receive events).pump.send) := by
    split
    · exact fail_local
    · exact local_bind (receive_local events) (local_bind pump_local send_local)
  obtain ⟨ok, m, hsocket, hpart⟩ := hlocal c s
  -- whoever did not fail is kept unless it is finished, which is a matter of the connection
  refine ⟨ok && !(has m.connection.status closing
    && !(m.connection.hasPendingOutput || !m.connection.input.isEmpty)), m,
    hsocket, fun i stats h hjoins => ?_⟩
  obtain ⟨hok, hleads⟩ := hpart i stats h hjoins
  dsimp only at hok hleads
  rw [serve]
  generalize (if events.intersects (EventMask.error ||| EventMask.invalid) then fail ⟨c, stats, h⟩
    else do (← receive events ⟨c, stats, h⟩).pump.send) = outcome at hok hleads ⊢
  cases outcome with
  | ok t =>
      refine ⟨t, ?_, hleads⟩
      obtain rfl : true = ok := hok
      obtain ⟨connection, _, _⟩ := t
      obtain rfl : connection = m.connection := hleads.connection
      rfl
  | error t =>
      obtain rfl : false = ok := hok
      exact ⟨t, rfl, hleads⟩

end Turn

end EventLoop.Echo
