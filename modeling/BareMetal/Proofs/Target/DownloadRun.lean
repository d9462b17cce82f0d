import BareMetal.Proofs.Target.Exchange

/-!
# Downloads over any line

Whatever a far end sends, commands go out one by one, each behind the response to the one before,
up to the first whose response is broken off (`askAll_cases`).  A download writes the commands up to
that one and no other, and fails with what broke the response off (`run_stops`).
-/

namespace BareMetal.Target

namespace DebugServer

/-- A command is sent between two states of the line, and a response is read up to a read that ends
with the terminator. -/
def Answered (echo : Bool) (text : String) (l l' : Line) : Prop :=
  ∃ asked readings response, send text l = (.ok (), asked) ∧
    Reads readSize asked.idle asked.incoming readings l'.incoming ∧ Answers readings response ∧
    receive echo asked = (.ok response, l')

/-- A command is sent between two states of the line, and a response is read that is broken off. -/
def CutShort (echo : Bool) (text : String) (l l' : Line) (failure : Error) : Prop :=
  ∃ asked readings, send text l = (.ok (), asked) ∧
    Reads readSize asked.idle asked.incoming readings l'.incoming ∧ BrokenOff readings failure ∧
    receive echo asked = (.error failure, l')

/-- Commands are sent in turn between two states of the line, each of them behind the response to
the one before, and all are answered. -/
inductive AllAnswered (echo : Bool) : List String → Line → Line → Prop
  | nil (l : Line) : AllAnswered echo [] l l
  | cons {text : String} {commands : List String} {l between l' : Line} :
    Answered echo text l between → AllAnswered echo commands between l' →
    AllAnswered echo (text :: commands) l l'

section

variable {echo : Bool} {l l' : Line} {text : String} {commands : List String} {failure : Error}

theorem Answered.command_eq (h : Answered echo text l l') :
    ∃ response, command text echo l = (.ok response, l') := by
  obtain ⟨asked, readings, response, sent, -, -, received⟩ := h
  exact ⟨response, (Outcome.bind_of_ok sent).trans received⟩

theorem CutShort.command_eq (h : CutShort echo text l l' failure) :
    command text echo l = (.error failure, l') := by
  obtain ⟨asked, readings, sent, -, -, received⟩ := h
  exact (Outcome.bind_of_ok sent).trans received

/-- Receiving takes arrivals and shows them, and leaves the line else as it is. -/
theorem receive_eq (echo : Bool) (l : Line) : ∃ result rest events,
    receive echo l = (result, { l with incoming := rest, events }) := by
  obtain ⟨readings, rest, reads, ⟨response, answers⟩ | ⟨failure, brokenOff⟩⟩ :=
    exists_reads_receive l
  · exact ⟨.ok response, rest, receive_of_answers reads answers⟩
  · exact ⟨.error failure, rest, receive_of_brokenOff reads brokenOff⟩

/-- A command is written whole, however it ends. -/
theorem command_written (h : l.Accepting) {result : Except Error Bytes}
    (asked : command text echo l = (result, l')) :
    l'.Accepting ∧ l'.written = l.written ++ frame text := by
  obtain ⟨events, sent⟩ := send_eq h text
  obtain ⟨result', rest, events', received⟩ := receive_eq echo { l with
    written := l.written ++ frame text, flushes := l.flushes + 1, events }
  rw [command, Outcome.bind_of_ok sent, received] at asked
  obtain ⟨-, rfl⟩ := Prod.mk.inj asked
  exact ⟨⟨h.peer, h.writeError, h.maxWrite, h.paused⟩, rfl⟩

/-- On a line that takes everything a command is answered or cut short. -/
theorem command_cases (h : l.Accepting) (text : String) (echo : Bool) : ∃ l' : Line,
    Answered echo text l l' ∨ ∃ failure, CutShort echo text l l' failure := by
  obtain ⟨events, sent⟩ := send_eq h text
  obtain ⟨readings, rest, reads, ⟨response, answers⟩ | ⟨failure, brokenOff⟩⟩ :=
    exists_reads_receive { l with
      written := l.written ++ frame text, flushes := l.flushes + 1, events }
  · obtain ⟨events', received⟩ : ∃ events', receive echo _ = _ := receive_of_answers reads answers
    exact ⟨_, Or.inl ⟨_, readings, response, sent, reads, answers, received⟩⟩
  · obtain ⟨events', received⟩ : ∃ events', receive echo _ = _ :=
      receive_of_brokenOff reads brokenOff
    exact ⟨_, Or.inr ⟨failure, _, readings, sent, reads, brokenOff, received⟩⟩

/-! ## Many commands -/

theorem askAll_of_error (first : command text echo l = (.error failure, l')) :
    askAll echo (text :: commands) l = (.error failure, l') := by
  rw [askAll_cons, Outcome.bind_of_error first]

theorem askAll_of_others_error {response : Bytes} {between : Line}
    (first : command text echo l = (.ok response, between))
    (others : askAll echo commands between = (.error failure, l')) :
    askAll echo (text :: commands) l = (.error failure, l') := by
  rw [askAll_cons, Outcome.bind_of_ok first, Outcome.bind_of_error others]

theorem AllAnswered.askAll_eq (h : AllAnswered echo commands l l') :
    ∃ responses, askAll echo commands l = (.ok responses, l') := by
  induction h with
  | nil l => exact ⟨[], rfl⟩
  | cons answered _ ih =>
    obtain ⟨response, first⟩ := answered.command_eq
    obtain ⟨responses, others⟩ := ih
    exact ⟨_, askAll_of_ok first others⟩

/-- The first of the commands were answered on the way. -/
theorem AllAnswered.take (h : AllAnswered echo commands l l') (i : Nat) :
    ∃ between, AllAnswered echo (commands.take i) l between := by
  induction h generalizing i with
  | nil l => exact ⟨l, by rw [List.take_nil]; exact .nil l⟩
  | @cons text commands l between l' answered _ ih =>
    cases i with
    | zero => exact ⟨l, .nil l⟩
    | succ i =>
      obtain ⟨last, others⟩ := ih i
      exact ⟨last, .cons answered others⟩

theorem AllAnswered.written_eq (h : AllAnswered echo commands l l') (accepting : l.Accepting) :
    l'.Accepting ∧ l'.written = l.written ++ frames commands := by
  induction h with
  | nil l => exact ⟨accepting, Array.append_empty.symm⟩
  | cons answered _ ih =>
    obtain ⟨response, first⟩ := answered.command_eq
    obtain ⟨accepting, written_eq⟩ := command_written accepting first
    obtain ⟨accepting, others_written⟩ := ih accepting
    exact ⟨accepting, by rw [others_written, written_eq, frames_cons, Array.append_assoc]⟩

/-- Commands are sent in turn up to the first whose response is broken off. -/
theorem askAll_cases (h : l.Accepting) (commands : List String) (echo : Bool) :
    (∃ responses l', askAll echo commands l = (.ok responses, l') ∧
      AllAnswered echo commands l l') ∨
    ∃ front text rest before failure l', commands = front ++ text :: rest ∧
      askAll echo commands l = (.error failure, l') ∧
      AllAnswered echo front l before ∧ CutShort echo text before l' failure := by
  induction commands generalizing l with
  | nil => exact Or.inl ⟨[], l, rfl, .nil l⟩
  | cons text commands ih =>
    obtain ⟨between, answered | ⟨failure, cutShort⟩⟩ := command_cases h text echo
    · obtain ⟨response, first⟩ := answered.command_eq
      rcases ih (command_written h first).1 with ⟨responses, l', others, all⟩ |
        ⟨front, last, rest, before, failure, l', rfl, others, all, cutShort⟩
      · exact Or.inl ⟨_, l', askAll_of_ok first others, .cons answered all⟩
      · exact Or.inr ⟨text :: front, last, rest, before, failure, l', rfl,
          askAll_of_others_error first others, .cons answered all, cutShort⟩
    · exact Or.inr ⟨[], text, commands, l, failure, between, rfl,
        askAll_of_error cutShort.command_eq, .nil l, cutShort⟩

end

end DebugServer

/-! ## Downloads -/

namespace Download

open DebugServer

/-- Whatever the far end sends, a download writes its first `k` commands and no other, and each of
them but the last has been answered before the next is written.  It succeeds if all commands are
written and answered, and fails with what broke off the response to the last one written. -/
theorem run_stops {echo : Bool} {l : Line} (h : l.Accepting) (d : Download) :
    ∃ k result l', k ≤ d.commandTexts.length ∧ d.run echo l = (result, l') ∧
      l'.written = l.written ++ frames (d.commandTexts.take k) ∧
      (∀ i < k, ∃ between, AllAnswered echo (d.commandTexts.take i) l between ∧
        between.written = l.written ++ frames (d.commandTexts.take i)) ∧
      (result = .ok () ↔ k = d.commandTexts.length ∧ AllAnswered echo d.commandTexts l l') ∧
      ∀ failure, result = .error failure → ∃ i text before, k = i + 1 ∧
        d.commandTexts[i]? = some text ∧ AllAnswered echo (d.commandTexts.take i) l before ∧
        CutShort echo text before l' failure := by
  have prefixes {front : List String} {before : Line} (all : AllAnswered echo front l before)
      (i : Nat) : ∃ between, AllAnswered echo (front.take i) l between ∧
        between.written = l.written ++ frames (front.take i) := by
    obtain ⟨between, answered⟩ := all.take i
    exact ⟨between, answered, (answered.written_eq h).2⟩
  rcases askAll_cases h d.commandTexts echo with ⟨responses, l', asked, all⟩ |
    ⟨front, text, rest, before, failure, l', texts_eq, asked, all, cutShort⟩
  · refine ⟨d.commandTexts.length, .ok (), l', Nat.le_refl _, ?_, ?_, fun i _ => prefixes all i,
      ?_, nofun⟩
    · rw [run_eq]
      exact Outcome.map_of_ok asked
    · rw [List.take_length]
      exact (all.written_eq h).2
    · exact ⟨fun _ => ⟨rfl, all⟩, fun _ => rfl⟩
  · -- the last command written is the one that was cut short
    have take_front {i : Nat} (hi : i ≤ front.length) : d.commandTexts.take i = front.take i := by
      rw [texts_eq, List.take_append_of_le_length hi]
    have take_all : d.commandTexts.take (front.length + 1) = front ++ [text] := by
      rw [texts_eq, List.take_length_add_append, List.take_succ_cons, List.take_zero]
    obtain ⟨accepting, before_written⟩ := all.written_eq h
    refine ⟨front.length + 1, .error failure, l', ?_, ?_, ?_, fun i hi => ?_, ⟨nofun, ?_⟩, ?_⟩
    · rw [texts_eq, List.length_append, List.length_cons]
      omega
    · rw [run_eq]
      exact Outcome.map_of_error asked
    · rw [(command_written accepting cutShort.command_eq).2, before_written, take_all,
        frames_concat, Array.append_assoc]
    · rw [take_front (Nat.le_of_lt_succ hi)]
      exact prefixes all i
    · rintro ⟨-, answered⟩
      obtain ⟨responses, all_asked⟩ := answered.askAll_eq
      exact absurd (congrArg Prod.fst (asked.symm.trans all_asked)) nofun
    · rintro _ ⟨⟩
      refine ⟨front.length, text, before, rfl, ?_, ?_, cutShort⟩
      · rw [texts_eq, List.getElem?_append_right (Nat.le_refl _), Nat.sub_self,
          List.getElem?_cons_zero]
      · rw [take_front (Nat.le_refl _), List.take_length]
        exact all

/-- A far end that answers once and then resets the connection: of seven commands two are written,
and the download fails with the reset. -/
theorem run_stops_at_reset :
    let d : Download := { elf := "kernel", startAddress := "0x8000" }
    let l : Line := { incoming := [.data #[0x6F, 0x6B], .failure ⟨.interrupted, ""⟩,
      .data #[terminator], .failure ⟨.connectionReset, "Connection reset"⟩] }
    let reset : Error := .io ⟨.connectionReset, "Connection reset"⟩
    l.Accepting ∧ ∃ l', d.run true l = (.error reset, l') ∧ d.commandTexts.length = 7 ∧
      l'.written = frames (d.commandTexts.take 2) ∧
      (∀ i < 2, ∃ between, AllAnswered true (d.commandTexts.take i) l between ∧
        between.written = frames (d.commandTexts.take i)) ∧
      ¬ AllAnswered true d.commandTexts l l' ∧
      ∃ text before, d.commandTexts[1]? = some text ∧
        AllAnswered true (d.commandTexts.take 1) l before ∧ CutShort true text before l' reset := by
  intro d l reset
  have accepting : l.Accepting := ⟨rfl, rfl, nofun, rfl⟩
  have nothing_written : l.written = #[] := rfl
  have count : d.commandTexts.length = 7 := rfl
  have failed : (d.run true l).1 = .error reset := by decide +kernel
  have last : (d.run true l).2.written = frames (d.commandTexts.take 2) := by decide +kernel
  obtain ⟨k, result, l', k_le, run_eq, written_eq, answered, -, fails⟩ := run_stops accepting d
  rw [run_eq] at failed last
  obtain rfl : result = .error reset := failed
  simp only [nothing_written, Array.empty_append] at written_eq answered
  obtain rfl : k = 2 := frames_take_inj k_le (by rw [count]; decide) (written_eq.symm.trans last)
  have not_all : ¬ AllAnswered true d.commandTexts l l' := fun all => by
    have all_written := (all.written_eq accepting).2.symm.trans written_eq
    rw [nothing_written, Array.empty_append] at all_written
    have two_eq : d.commandTexts.length = 2 :=
      frames_take_inj le_rfl k_le (by rw [List.take_length, all_written])
    rw [count] at two_eq
    cases two_eq
  obtain ⟨i, text, before, two_eq, text_eq, answered_before, cutShort⟩ := fails reset rfl
  obtain rfl : 1 = i := Nat.succ.inj two_eq
  exact ⟨accepting, l', run_eq, count, written_eq, answered, not_all, text, before, text_eq,
    answered_before, cutShort⟩

end Download

end BareMetal.Target
