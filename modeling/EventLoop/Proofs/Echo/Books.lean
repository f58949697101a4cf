import EventLoop.Proofs.Echo.Effort

/-! # What connections hold

    Every byte that a connection received was sent, or is in one of its buffers
    (`buffered`). The counters of the service say how many were received and how many
    were sent, so that in whatever a turn does the three go up and down together.

    * `Books`: the change that a part of a turn makes in the counters and in the buffers
      of its connection. The parts are put together by `Books.trans`, and `serve_books`
      is the whole turn.
    * `Receives.brought`: a receive answers with the number of bytes that it put into the
      input, also where it ends in the end of the stream or in a failure.
    * `staged`: the bytes in the buffers of a table, and how they change with one of its
      connections. -/

namespace EventLoop

/-- The number of bytes that a receive reports. -/
def brought : Except Error Fill → Nat
  | .ok (.read n) => n
  | _ => 0

/-- No byte comes unreported: an end or a failure is reported only where nothing came. -/
theorem Receives.brought {σ : Type} {t : Transport σ} {total room : Nat} {s s' : σ} {data : Bytes}
    {r : Except Error Fill} (h : Receives t total room s data r s') :
    EventLoop.brought r = total + data.length := by
  -- on the receives: the total goes with them
  induction h with
  | full => rfl
  | short _ _ _ _ => rfl
  | more _ _ _ _ _ ih => rw [ih, List.length_append, Nat.add_assoc]
  | wouldBlock _ _ _ =>
      split
      · next hzero => exact hzero.symm
      · rfl
  | closed _ _ _ =>
      split
      · next hzero => exact hzero.symm
      · rfl
  | failed _ _ _ =>
      split
      · next hzero => exact hzero.symm
      · rfl

namespace Echo

variable {c new : Connection Unit} {fd : Descriptor}
  {table table' : DescriptorTable (Connection Unit)}

/-- The bytes in the buffers of a connection. -/
def buffered (c : Connection Unit) : Nat := c.input.length + c.output.length

/-- The bytes in the buffers of all connections of a table. -/
def staged (table : DescriptorTable (Connection Unit)) : Nat :=
  (table.entries.map fun entry => buffered entry.2).sum

/-- Whoever is finished holds nothing. -/
theorem Turn.buffered_of_finished {t : Turn} (hinput : t.connection.input.WellFormed)
    (houtput : t.connection.output.WellFormed) (hfinished : t.isFinished = true) :
    buffered t.connection = 0 := by
  obtain ⟨_, hnothing, hnothing'⟩ := isFinished_iff.mp hfinished
  rw [RingBuffer.isEmpty_eq houtput, List.isEmpty_iff_length_eq_zero,
    RingBuffer.length_toList houtput] at hnothing
  rw [RingBuffer.isEmpty_eq hinput, List.isEmpty_iff_length_eq_zero,
    RingBuffer.length_toList hinput] at hnothing'
  rw [buffered, hnothing, hnothing']

/-- What is moved from one buffer to the other is still held. -/
theorem Moved.length {count : Nat} {input output input' output' : RingBuffer}
    (h : Moved count input output input' output') (hinput : input.WellFormed)
    (houtput : output.WellFormed) :
    input'.length + output'.length = input.length + output.length := by
  have hshorter := congrArg List.length h.input_toList
  have hlonger := congrArg List.length h.output_toList
  rw [RingBuffer.length_toList h.input_wellFormed, List.length_drop,
    RingBuffer.length_toList hinput] at hshorter
  rw [RingBuffer.length_toList h.output_wellFormed, List.length_append,
    RingBuffer.length_toList houtput, List.length_take, RingBuffer.length_toList hinput] at hlonger
  omega

/-! ## Turns -/

namespace Turn

variable {t t' t'' : Turn} {events : EventMask} {received received' sent sent' : Nat}

/-- What a part of a turn does to the books: what it receives besides it sends or holds
    besides. A transfer that is counted moved a byte at least. Errors are counted up only,
    and no client comes or goes. -/
structure Books (received sent : Nat) (t t' : Turn) : Prop where
  input : t'.connection.input.WellFormed
  output : t'.connection.output.WellFormed
  bytesIn : t'.stats.bytesIn = t.stats.bytesIn + received
  bytesOut : t'.stats.bytesOut = t.stats.bytesOut + sent
  recvs : t'.stats.recvs ≤ t.stats.recvs + received
  sends : t'.stats.sends ≤ t.stats.sends + sent
  held : buffered t'.connection + sent = buffered t.connection + received
  accepts : t'.stats.accepts = t.stats.accepts
  rejected : t'.stats.rejected = t.stats.rejected
  closes : t'.stats.closes = t.stats.closes
  errors : t.stats.errors ≤ t'.stats.errors

theorem Books.trans (h : Books received sent t t') (h' : Books received' sent' t' t'') :
    Books (received + received') (sent + sent') t t'' where
  input := h'.input
  output := h'.output
  bytesIn := by rw [h'.bytesIn, h.bytesIn, Nat.add_assoc]
  bytesOut := by rw [h'.bytesOut, h.bytesOut, Nat.add_assoc]
  recvs := by
    have hfirst := h.recvs
    have hsecond := h'.recvs
    omega
  sends := by
    have hfirst := h.sends
    have hsecond := h'.sends
    omega
  held := by
    have hfirst := h.held
    have hsecond := h'.held
    omega
  accepts := h'.accepts.trans h.accepts
  rejected := h'.rejected.trans h.rejected
  closes := h'.closes.trans h.closes
  errors := Nat.le_trans h.errors h'.errors

/-- No transfer is counted and as many bytes are held; there may be errors. -/
theorem Books.of_uncounted {errors : Nat} (hinput : t'.connection.input.WellFormed)
    (houtput : t'.connection.output.WellFormed)
    (hheld : buffered t'.connection = buffered t.connection) (herrors : t.stats.errors ≤ errors)
    (hstats : t'.stats = { t.stats with errors := errors }) : Books 0 0 t t' := by
  obtain ⟨connection, stats, host⟩ := t'
  obtain rfl : stats = { t.stats with errors := errors } := hstats
  exact ⟨hinput, houtput, rfl, rfl, Nat.le_refl _, Nat.le_refl _, hheld, rfl, rfl, rfl, herrors⟩

section

variable (hinput : t.connection.input.WellFormed) (houtput : t.connection.output.WellFormed)

include hinput houtput

theorem books_refl : Books 0 0 t t := .of_uncounted hinput houtput rfl (Nat.le_refl _) rfl

/-- What a connection receives in its turn is no more than its input can hold. -/
theorem receive_books : ∃ received, received ≤ t.connection.input.capacity
    ∧ Books received 0 t (Outcome.left (t.receive events)) := by
  rw [receive]
  split
  · obtain ⟨data, hreceives, hwf, hlist, hcapacity⟩ :=
      RingBuffer.fillFrom_receives t.connection.socket.transport_honest.fits t.host hinput
    have hbrought := hreceives.brought
    have hlength := congrArg List.length hlist
    rw [RingBuffer.length_toList hwf, List.length_append,
      RingBuffer.length_toList hinput] at hlength
    rcases hfill : t.connection.input.fillFrom t.connection.socket.transport t.host
      with ⟨r, input, h'⟩
    rw [hfill] at hwf hbrought hlength hcapacity
    dsimp only at hwf hbrought hlength hcapacity
    -- the input is longer by what the answer says
    have hlonger : input.length + t.connection.output.length + 0 = buffered t.connection
        + brought r := by
      rw [hlength, hbrought, buffered]
      omega
    have hroom : brought r ≤ t.connection.input.capacity := by
      have hfits := hwf.length_le
      rw [hcapacity] at hfits
      omega
    refine ⟨brought r, hroom, ?_⟩
    rw [Connection.receive, hfill]
    rcases r with e | count | - | -
    · exact .of_uncounted hwf houtput hlonger (Nat.le_succ _) rfl
    · dsimp only [Outcome.left]
      rw [countReceived]
      split
      · rename_i hzero
        subst hzero
        exact .of_uncounted hwf houtput hlonger (Nat.le_refl _) rfl
      · rename_i hsome
        exact ⟨hwf, houtput, rfl, rfl, Nat.add_le_add_left (Nat.pos_of_ne_zero hsome) _,
          Nat.le_refl _, hlonger, rfl, rfl, rfl, Nat.le_refl _⟩
    · exact .of_uncounted hwf houtput hlonger (Nat.le_refl _) rfl
    · exact .of_uncounted hwf houtput hlonger (Nat.le_refl _) rfl
  · split
    · exact ⟨0, Nat.zero_le _, .of_uncounted hinput houtput rfl (Nat.le_refl _) rfl⟩
    · exact ⟨0, Nat.zero_le _, books_refl hinput houtput⟩

/-- Bytes that move from input to output stay on the books. -/
theorem pump_books : Books 0 0 t t.pump := by
  obtain ⟨input, output, hpump, hmoved⟩ := pump_spec t.connection t.host hinput houtput
  rw [pump, hpump]
  exact .of_uncounted hmoved.input_wellFormed hmoved.output_wellFormed
    (hmoved.length hinput houtput) (Nat.le_refl _) rfl

/-- What was sent left the output, whether the send failed or not. -/
theorem send_books : ∃ sent, Books 0 sent t (Outcome.left t.send) := by
  rw [send]
  split
  · rename_i hpending
    have hnonempty : t.connection.output.isEmpty = false := by
      rw [← Bool.not_eq_true']
      exact hpending
    obtain ⟨r, h', _, hflush⟩ :=
      RingBuffer.flushTo_of_nonempty t.connection.socket.transport t.host hnonempty
    rw [Connection.flush, hflush]
    rcases r with e | asked
    · exact ⟨0, .of_uncounted hinput houtput rfl (Nat.le_succ _) rfl⟩
    · have hwf := RingBuffer.consume_wellFormed houtput asked
      have hcount := RingBuffer.consume_count houtput asked
      have hlength := congrArg List.length (RingBuffer.toList_consume houtput asked)
      rw [RingBuffer.length_toList hwf, List.length_drop] at hlength
      rw [RingBuffer.length_toList houtput] at hcount hlength
      rcases hconsume : t.connection.output.consume asked with ⟨count, output⟩
      rw [hconsume] at hwf hcount hlength
      dsimp only at hwf hcount hlength ⊢
      rw [hconsume]
      -- the output is shorter by what was sent
      have hshorter : t.connection.input.length + output.length + count
          = buffered t.connection + 0 := by
        rw [hlength, buffered]
        omega
      cases count with
      | zero =>
          exact ⟨0, .of_uncounted hinput hwf hshorter (Nat.le_refl _) rfl⟩
      | succ count =>
          have hsent : Books 0 (count + 1) t
              ({ t with connection := { t.connection with output := output }, host := h' }.countSent
                (count + 1)) :=
            ⟨hinput, hwf, rfl, rfl, Nat.le_refl _, Nat.add_le_add_left (Nat.succ_pos count) _,
              hshorter, rfl, rfl, rfl, Nat.le_refl _⟩
          exact ⟨count + 1, hsent.trans (pump_books hinput hwf)⟩
  · exact ⟨0, books_refl hinput houtput⟩

/-- The whole turn. It receives once only. -/
theorem serve_books : ∃ received sent, received ≤ t.connection.input.capacity
    ∧ Books received sent t (t.serve events).2 := by
  have hbooks : ∃ received sent, received ≤ t.connection.input.capacity
      ∧ Books received sent t (Outcome.left (if events.intersects
        (EventMask.error ||| EventMask.invalid) then t.fail
        else do (← t.receive events).pump.send)) := by
    split
    · exact ⟨0, 0, Nat.zero_le _, .of_uncounted hinput houtput rfl (Nat.le_succ _) rfl⟩
    · obtain ⟨received, hroom, hreceived⟩ := receive_books hinput houtput
      cases hreceive : t.receive events with
      | error t' =>
          rw [hreceive] at hreceived
          exact ⟨received, 0, hroom, hreceived⟩
      | ok t' =>
          rw [hreceive] at hreceived
          have hpumped := pump_books hreceived.input hreceived.output
          obtain ⟨sent, hsent⟩ := send_books hpumped.input hpumped.output
          exact ⟨received + (0 + 0), _, hroom, hreceived.trans (hpumped.trans hsent)⟩
  rw [serve]
  generalize (if events.intersects (EventMask.error ||| EventMask.invalid) then t.fail
    else do (← t.receive events).pump.send) = outcome at hbooks ⊢
  cases outcome <;> exact hbooks

end

end Turn

/-! ## Tables -/

/-- A connection and all others. -/
theorem staged_eq (hkeys : table.keys.Nodup) (hget : table.get? fd = some c) :
    staged table = buffered c + staged (table.erase fd) := by
  rw [staged, ((DescriptorTable.perm_erase hkeys hget).map _).sum_nat, List.map_cons, List.sum_cons]
  rfl

/-- The bytes of one connection and those of the others make up the whole. -/
theorem staged_modify {f : Connection Unit → Connection Unit} (hkeys : table.keys.Nodup)
    (hget : table.get? fd = some c) :
    staged (table.modify fd f) = buffered (f c) + staged (table.erase fd) := by
  have hmodified : (table.modify fd f).get? fd = some (f c) := by
    rw [DescriptorTable.get?_modify_self, hget]
    rfl
  rw [staged_eq ((DescriptorTable.keys_modify table fd f).symm ▸ hkeys) hmodified,
    DescriptorTable.erase_modify]

/-- Changes that leave the buffers alone. -/
theorem staged_modify_of_same {f : Connection Unit → Connection Unit}
    (hsame : ∀ c, buffered (f c) = buffered c) :
    staged (table.modify fd f) = staged table := by
  rw [staged, DescriptorTable.modify, List.map_map]
  refine congrArg List.sum (List.map_congr_left ?_)
  intro entry _
  show buffered (if entry.1 = fd then (entry.1, f entry.2) else entry).2 = buffered entry.2
  split
  · exact hsame entry.2
  · rfl

theorem staged_append (hentries : table'.entries = table.entries ++ [(fd, new)]) :
    staged table' = staged table + buffered new := by
  rw [staged, hentries, List.map_append, List.sum_append, List.map_singleton, List.sum_singleton]
  rfl

end Echo

end EventLoop
