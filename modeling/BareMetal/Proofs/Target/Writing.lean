import BareMetal.Proofs.Outcome
import BareMetal.Proofs.Target.Line

/-!
# Writing on any line

However a line behaves, a conversation that only writes has its pieces written in turn up to the
first that is not taken whole, and fails with the error of that one (`Line.Writes`, `Talk.Sends`).
What has been written then is a beginning of the pieces (`Line.Writes.written_of_failure`), and on a
line that breaks off it is all that the line takes (`Line.Writes.of_breaksOff`).
-/

namespace BareMetal.Target

/-! ## One piece -/

namespace Line

/-- Taking some bytes changes what the far end answers and whether it holds the writer up, and
nothing else. -/
theorem deliver_eq (l : Line) (bytes : Bytes) : ∃ incoming peer paused,
    l.deliver bytes = { l with incoming, peer, paused, written := l.written ++ bytes } := by
  cases peer_eq : l.peer with
  | none => exact ⟨l.incoming, l.peer, l.paused, by simp only [deliver, peer_eq]⟩
  | some p =>
    simp only [deliver, peer_eq, receive]
    exact ⟨_, _, _, rfl⟩

theorem written_deliver (l : Line) (bytes : Bytes) :
    (l.deliver bytes).written = l.written ++ bytes := by
  obtain ⟨incoming, peer, paused, delivered⟩ := l.deliver_eq bytes
  rw [delivered]

theorem events_deliver (l : Line) (bytes : Bytes) : (l.deliver bytes).events = l.events := by
  obtain ⟨incoming, peer, paused, delivered⟩ := l.deliver_eq bytes
  rw [delivered]

/-- An error stops a line short of what it is to take. -/
theorem accepts_lt {l : Line} {n room : Nat} {e : IoError} (h : l.accepts n = (room, some e)) :
    room < n := by
  unfold accepts at h
  generalize (if l.paused then _ else _) = left at h
  dsimp only at h
  split at h
  · split_ifs at h with nothing
    · cases h
    · obtain ⟨rfl, -⟩ := Prod.mk.inj h
      exact Nat.pos_of_ne_zero nothing
  · split_ifs at h with full
    · obtain ⟨rfl, -⟩ := Prod.mk.inj h
      exact Nat.pos_of_ne_zero full.2
    · split at h
      · split_ifs at h with short
        · obtain ⟨rfl, -⟩ := Prod.mk.inj h
          exact short
        · cases h
      · cases h

end Line

namespace Talk

variable {l l' : Line} {bytes : Bytes}

/-- A piece is taken whole, or a part of it before an error. -/
theorem write_cases (bytes : Bytes) (l : Line) :
    write bytes l = (.ok (), l.deliver bytes) ∨ ∃ e, ∃ room < bytes.size,
      write bytes l = (.error (.io e), l.deliver (bytes.extract 0 room)) := by
  unfold write
  split
  · exact .inl rfl
  · rename_i room e taken
    exact .inr ⟨e, room, Line.accepts_lt taken, rfl⟩

theorem eq_deliver_of_write (h : write bytes l = (.ok (), l')) : l' = l.deliver bytes := by
  rcases write_cases bytes l with taken | ⟨e, room, -, broken⟩
  · exact congrArg Prod.snd (h.symm.trans taken)
  · cases congrArg Prod.fst (h.symm.trans broken)

theorem exists_deliver_of_write {e : IoError} (h : write bytes l = (.error (.io e), l')) :
    ∃ room < bytes.size, l' = l.deliver (bytes.extract 0 room) := by
  rcases write_cases bytes l with taken | ⟨_, room, room_lt, broken⟩
  · cases congrArg Prod.fst (h.symm.trans taken)
  · exact ⟨room, room_lt, congrArg Prod.snd (h.symm.trans broken)⟩

end Talk

/-- A line that takes so many bytes more and then fails. -/
structure Line.BreaksOff (l : Line) (room : Nat) (e : IoError) : Prop where
  peer : l.peer = none
  maxWrite : l.maxWrite ≠ some 0
  paused : l.paused = false
  writeError : l.writeError = some (l.written.size + room, e)

namespace Line.BreaksOff

variable {l : Line} {room : Nat} {e : IoError}

theorem accepts_eq (h : l.BreaksOff room e) (n : Nat) :
    l.accepts n = if room < n then (room, some e) else (n, none) := by
  have left : l.written.size + room - l.written.size = room := Nat.add_sub_cancel_left _ _
  cases room with
  | zero =>
    simp only [accepts, h.paused, h.writeError, Bool.false_eq_true, if_false, Option.map_some, left]
    rcases n.eq_zero_or_pos with rfl | some_byte
    · rfl
    · rw [if_neg (Nat.ne_of_gt some_byte), if_pos some_byte]
  | succ room =>
    simp [accepts, h.paused, h.writeError, left, h.maxWrite]

theorem deliver_eq (h : l.BreaksOff room e) (bytes : Bytes) :
    l.deliver bytes = { l with written := l.written ++ bytes } := by
  simp only [deliver, h.peer]

theorem write_of_le (h : l.BreaksOff room e) {bytes : Bytes} (fits : bytes.size ≤ room) :
    Talk.write bytes l = (.ok (), l.deliver bytes) ∧
      (l.deliver bytes).BreaksOff (room - bytes.size) e := by
  refine ⟨?_, ?_⟩
  · simp only [Talk.write, h.accepts_eq, if_neg (Nat.not_lt.2 fits)]
  · rw [h.deliver_eq]
    refine ⟨h.peer, h.maxWrite, h.paused, ?_⟩
    rw [h.writeError, Array.size_append, Nat.add_assoc, Nat.add_sub_cancel' fits]

theorem write_of_lt (h : l.BreaksOff room e) {bytes : Bytes} (short : room < bytes.size) :
    Talk.write bytes l = (.error (.io e), l.deliver (bytes.extract 0 room)) := by
  simp only [Talk.write, h.accepts_eq, if_pos short]

end Line.BreaksOff

/-! ## Many pieces -/

/-- Pieces are written in turn between two states of a line, up to the first that is not taken whole,
whose error is given.  What is flushed and shown between them does not count. -/
inductive Line.Writes : Line → List Bytes → Option IoError → Line → Prop
  | nil (l : Line) : Writes l [] none l
  | taken {l between l' : Line} {piece : Bytes} {pieces : List Bytes} {failure : Option IoError} :
    Talk.write piece l = (.ok (), between) → Writes between pieces failure l' →
    Writes l (piece :: pieces) failure l'
  | refused {l l' : Line} {piece : Bytes} {e : IoError} (pieces : List Bytes) :
    Talk.write piece l = (.error (.io e), l') → Writes l (piece :: pieces) (some e) l'
  | beside {l l' : Line} {pieces : List Bytes} {failure : Option IoError} (flushes : Nat)
    (events : Array Event) :
    Writes { l with flushes, events } pieces failure l' → Writes l pieces failure l'

namespace Line.Writes

variable {l l' between : Line} {pieces others : List Bytes} {failure : Option IoError} {e : IoError}

theorem append (first : l.Writes pieces none between) (second : between.Writes others failure l') :
    l.Writes (pieces ++ others) failure l' := by
  generalize all : none = stopped at first
  induction first with
  | nil l => exact second
  | taken whole _ ih => exact .taken whole (ih second all)
  | refused pieces broken => cases all
  | beside flushes events _ ih => exact .beside flushes events (ih second all)

theorem append_of_failure (h : l.Writes pieces (some e) l') (others : List Bytes) :
    l.Writes (pieces ++ others) (some e) l' := by
  generalize stopped : some e = failure at h
  induction h with
  | nil l => cases stopped
  | taken whole _ ih => exact .taken whole (ih stopped)
  | refused pieces broken => exact .refused (pieces ++ others) broken
  | beside flushes events _ ih => exact .beside flushes events (ih stopped)

/-- If there is no error, all pieces have been written. -/
theorem written_eq (h : l.Writes pieces none l') : l'.written = l.written ++ Bytes.join pieces := by
  generalize all : none = failure at h
  induction h with
  | nil l => exact Array.append_empty.symm
  | taken whole _ ih =>
    rw [ih all, Talk.eq_deliver_of_write whole, written_deliver, Bytes.join_cons, Array.append_assoc]
  | refused pieces broken => cases all
  | beside flushes events _ ih => exact ih all

/-- If there is an error, a beginning of the pieces has been written, and not all of them. -/
theorem written_of_failure (h : l.Writes pieces (some e) l') : ∃ sent unsent,
    Bytes.join pieces = sent ++ unsent ∧ unsent ≠ #[] ∧ l'.written = l.written ++ sent := by
  generalize stopped : some e = failure at h
  induction h with
  | nil l => cases stopped
  | @taken l between l' piece pieces failure whole _ ih =>
    obtain ⟨sent, unsent, pieces_eq, some_unsent, written_eq⟩ := ih stopped
    refine ⟨piece ++ sent, unsent, ?_, some_unsent, ?_⟩
    · rw [Bytes.join_cons, pieces_eq, Array.append_assoc]
    · rw [written_eq, Talk.eq_deliver_of_write whole, written_deliver, Array.append_assoc]
  | @refused l l' piece e pieces broken =>
    obtain ⟨room, room_lt, rfl⟩ := Talk.exists_deliver_of_write broken
    refine ⟨piece.extract 0 room, piece.extract room piece.size ++ Bytes.join pieces, ?_, ?_,
      written_deliver l _⟩
    · rw [Bytes.join_cons, ← Array.append_assoc, Array.extract_append_extract, Nat.min_eq_left
        (Nat.zero_le room), Nat.max_eq_right (Nat.le_of_lt room_lt), Array.extract_size]
    · exact Array.append_ne_empty_of_left_ne_empty (by simp; omega)
  | beside flushes events _ ih => exact ih stopped

/-- All pieces are taken by a line that takes everything. -/
theorem of_accepting (h : l.Writes pieces failure l') (accepting : l.Accepting) : failure = none := by
  induction h with
  | nil l => rfl
  | taken whole _ ih =>
    refine ih ?_
    cases (Talk.write_eq accepting _).symm.trans whole
    exact ⟨accepting.peer, accepting.writeError, accepting.maxWrite, accepting.paused⟩
  | refused pieces broken => cases (Talk.write_eq accepting _).symm.trans broken
  | beside flushes events _ ih =>
    exact ih ⟨accepting.peer, accepting.writeError, accepting.maxWrite, accepting.paused⟩

/-- A line that breaks off short of the pieces has taken all that it can and fails with its error. -/
theorem of_breaksOff (h : l.Writes pieces failure l') {room : Nat} (breaks : l.BreaksOff room e)
    (short : room < (Bytes.join pieces).size) :
    failure = some e ∧ l'.written.size = l.written.size + room := by
  induction h generalizing room with
  | nil l => exact absurd short (Nat.not_lt_zero room)
  | @taken l between l' piece pieces failure whole _ ih =>
    rcases Nat.lt_or_ge room piece.size with short_piece | fits
    · cases (breaks.write_of_lt short_piece).symm.trans whole
    · obtain ⟨taken, breaks⟩ := breaks.write_of_le fits
      cases taken.symm.trans whole
      rw [Bytes.join_cons, Array.size_append] at short
      obtain ⟨stopped, size_eq⟩ := ih breaks (by omega)
      rw [written_deliver, Array.size_append] at size_eq
      exact ⟨stopped, by omega⟩
  | @refused l l' piece e' pieces broken =>
    rcases Nat.lt_or_ge room piece.size with short_piece | fits
    · cases (breaks.write_of_lt short_piece).symm.trans broken
      refine ⟨rfl, ?_⟩
      rw [written_deliver, Array.size_append, Array.size_extract, Nat.min_eq_left
        (Nat.le_of_lt short_piece), Nat.sub_zero]
    · cases (breaks.write_of_le fits).1.symm.trans broken
  | beside flushes events _ ih =>
    exact ih ⟨breaks.peer, breaks.maxWrite, breaks.paused, breaks.writeError⟩ short

end Line.Writes

/-! ## Conversations -/

/-- The outcome of a conversation that gives `a` if no write fails. -/
def Talk.outcome {α : Type} (a : α) : Option IoError → Except Error α
  | none => .ok a
  | some e => .error (.io e)

/-- However the line behaves, the conversation writes the pieces up to the first that is not taken
whole, and fails with the error of that one.  If there is none, it has shown the events and gives
`a`. -/
def Talk.Sends {α : Type} (t : Talk α) (pieces : List Bytes) (shown : List Event) (a : α) : Prop :=
  ∀ l : Line, ∃ failure l', l.Writes pieces failure l' ∧ t l = (outcome a failure, l') ∧
    (failure = none → l'.events = l.events ++ shown.toArray)

namespace Talk

variable {α β : Type}

theorem Sends.bind {t : Talk α} {f : α → Talk β} {pieces others : List Bytes}
    {shown more : List Event} {a : α} {b : β} (first : t.Sends pieces shown a)
    (second : (f a).Sends others more b) : (t >>= f).Sends (pieces ++ others) (shown ++ more) b := by
  intro l
  obtain ⟨failure, between, writes, run_eq, events_eq⟩ := first l
  cases failure with
  | some e =>
    exact ⟨some e, between, writes.append_of_failure others, Outcome.bind_of_error run_eq, nofun⟩
  | none =>
    obtain ⟨failure, l', writes', run_eq', events_eq'⟩ := second between
    refine ⟨failure, l', writes.append writes', (Outcome.bind_of_ok run_eq).trans run_eq', ?_⟩
    intro all
    rw [events_eq' all, events_eq rfl, Array.append_assoc, List.append_toArray shown more]

theorem sends_pure (a : α) : (pure a : Talk α).Sends [] [] a :=
  fun l => ⟨none, l, .nil l, rfl, fun _ => Array.append_empty.symm⟩

theorem sends_write (bytes : Bytes) : (write bytes).Sends [bytes] [] () := by
  intro l
  rcases write_cases bytes l with taken | ⟨e, room, -, broken⟩
  · refine ⟨none, l.deliver bytes, .taken taken (.nil _), taken, fun _ => ?_⟩
    rw [Line.events_deliver]
    exact Array.append_empty.symm
  · exact ⟨some e, _, .refused [] broken, broken, nofun⟩

theorem sends_flush : flush.Sends [] [] () :=
  fun l => ⟨none, _, .beside (l.flushes + 1) l.events (.nil _), rfl,
    fun _ => Array.append_empty.symm⟩

/-- What is shown is not written. -/
theorem sends_emitAll (shown : List Event) :
    Sends (fun l => (.ok (), l.emitAll shown)) [] shown () :=
  fun l => ⟨none, _, .beside l.flushes (l.events ++ shown.toArray) (.nil _), rfl, fun _ => rfl⟩

theorem sends_emit (e : Event) : (emit e).Sends [] [e] () :=
  fun l => ⟨none, _, .beside l.flushes (l.events.push e) (.nil _), rfl,
    fun _ => Array.push_eq_append⟩

theorem sends_writeLine (bytes terminator : Bytes) :
    (writeLine bytes terminator).Sends [bytes, terminator] [] () :=
  (sends_write bytes).bind ((sends_write terminator).bind sends_flush)

end Talk

end BareMetal.Target
