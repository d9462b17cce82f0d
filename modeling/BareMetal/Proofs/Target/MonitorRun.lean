import BareMetal.Proofs.Outcome
import BareMetal.Proofs.Target.MonitorResponse

/-!
# Runs of a monitor session

A session sends some lines, each behind the prompt that ends the response to the one before
(`converse`).  How it goes is told by the responses alone (`Converses`): the first that does not end
with the prompt is the last, and nothing is sent behind it (`run_awaits_prompts`).
-/

namespace BareMetal.Target.Monitor

/-- A response ends with the prompt. -/
def Confirms : Except Error String → Prop
  | .ok line => prompt.toList <:+ line.toList
  | .error _ => False

/-- The error of a response that does not end with the prompt. -/
def refusal : Except Error String → Error
  | .ok _ => .noPrompt prompt
  | .error failure => failure

/-- Responses read one after the other, and what is still to come after them. -/
inductive Hears (idle : Idle) : List Arrival → List (Except Error String) → List Arrival → Prop
  | nil (incoming : List Arrival) : Hears idle incoming [] incoming
  | cons {incoming between rest : List Arrival} {readings : List Reading}
    {outcome : Except Error String} {outcomes : List (Except Error String)} :
    Reads readSize idle incoming readings between → Responds prompt readings outcome →
    Hears idle between outcomes rest → Hears idle incoming (outcome :: outcomes) rest

/-- The only errors that are heard are those of reads. -/
theorem Hears.eq_io {idle : Idle} {incoming rest : List Arrival}
    {outcomes : List (Except Error String)} (h : Hears idle incoming outcomes rest)
    {failure : Error} (mem : .error failure ∈ outcomes) : ∃ e, failure = .io e := by
  induction h with
  | nil => exact absurd mem List.not_mem_nil
  | cons _ responds _ ih =>
    rcases List.mem_cons.1 mem with rfl | mem
    · exact responds.eq_io
    · exact ih mem

theorem Hears.eq_of_nil {idle : Idle} {incoming rest : List Arrival}
    (h : Hears idle incoming [] rest) : rest = incoming := by
  cases h
  rfl

/-- What is heard is told by what arrives, as far as it goes. -/
theorem Hears.unique {idle : Idle} {incoming rest rest' : List Arrival}
    {outcomes outcomes' : List (Except Error String)} (h : Hears idle incoming outcomes rest)
    (h' : Hears idle incoming outcomes' rest') (length_eq : outcomes.length = outcomes'.length) :
    outcomes = outcomes' ∧ rest = rest' := by
  induction h generalizing outcomes' with
  | nil =>
    obtain rfl := List.eq_nil_of_length_eq_zero length_eq.symm
    exact ⟨rfl, h'.eq_of_nil.symm⟩
  | cons reads responds _ ih =>
    cases h' with
    | nil => cases length_eq
    | cons reads' responds' others' =>
      obtain ⟨rfl, rfl⟩ := responds.unique reads reads' responds'
      obtain ⟨rfl, rfl⟩ := ih others' (Nat.succ.inj length_eq)
      exact ⟨rfl, rfl⟩

/-- A second response is heard behind a first that ends with the prompt. -/
theorem Hears.eq_pair {idle : Idle} {incoming between rest rest' : List Arrival}
    {readings : List Reading} {first second : Except Error String}
    {outcomes : List (Except Error String)} {sent : List String}
    (h : Hears idle incoming outcomes rest') (length_eq : outcomes.length = min sent.length 2)
    (some_sent : 0 < sent.length)
    (second_sent : 1 < sent.length ↔ ∃ o, outcomes[0]? = some o ∧ Confirms o)
    (reads : Reads readSize idle incoming readings between)
    (responds : Responds prompt readings first) (confirms : Confirms first)
    (others : Hears idle between [second] rest) :
    1 < sent.length ∧ outcomes = [first, second] ∧ rest' = rest := by
  have two_sent : 1 < sent.length := by
    by_contra one_sent
    have one : outcomes.length = [first].length := by
      rw [length_eq, List.length_singleton]
      omega
    obtain ⟨rfl, -⟩ := h.unique (.cons reads responds (.nil _)) one
    exact one_sent (second_sent.2 ⟨first, rfl, confirms⟩)
  refine ⟨two_sent, h.unique (.cons reads responds others) ?_⟩
  rw [length_eq]
  exact Nat.min_eq_right two_sent

/-! ## Lines and their responses -/

/-- A line as it is sent. -/
def lineBytes (text : String) : Bytes := Bytes.ofText text ++ #[LineEditor.lineFeed]

/-- The bytes of some lines as they are sent. -/
def linesBytes (texts : List String) : Bytes := Bytes.join (texts.map lineBytes)

@[simp] theorem linesBytes_cons (text : String) (texts : List String) :
    linesBytes (text :: texts) = lineBytes text ++ linesBytes texts := rfl

theorem linesBytes_singleton (text : String) : linesBytes [text] = lineBytes text :=
  Array.append_empty

/-- Sends some lines, and awaits the prompt behind each but the last. -/
def converse (echo : Bool) : List String → Talk Unit
  | [] => pure ()
  | [text] => sendLine text
  | text :: next :: others => do
    sendLine text
    waitPrompt echo prompt
    converse echo (next :: others)

/-- How sending some lines goes: the lines that are sent, the responses that are read, and the
result. -/
inductive Converses (idle : Idle) : List String → List Arrival → List String →
    List (Except Error String) → Except Error Unit → List Arrival → Prop
  | last (text : String) (incoming : List Arrival) :
    Converses idle [text] incoming [text] [] (.ok ()) incoming
  | refused {text next : String} {others : List String} {incoming rest : List Arrival}
    {readings : List Reading} {outcome : Except Error String} :
    Reads readSize idle incoming readings rest → Responds prompt readings outcome →
    ¬ Confirms outcome →
    Converses idle (text :: next :: others) incoming [text] [outcome] (.error (refusal outcome))
      rest
  | confirmed {text next : String} {others sent : List String}
    {incoming between rest : List Arrival} {readings : List Reading}
    {outcome : Except Error String} {outcomes : List (Except Error String)}
    {result : Except Error Unit} :
    Reads readSize idle incoming readings between → Responds prompt readings outcome →
    Confirms outcome → Converses idle (next :: others) between sent outcomes result rest →
    Converses idle (text :: next :: others) incoming (text :: sent) (outcome :: outcomes) result
      rest

namespace Converses

variable {idle : Idle} {texts sent : List String} {incoming rest : List Arrival}
  {outcomes : List (Except Error String)} {result : Except Error Unit}

theorem hears (h : Converses idle texts incoming sent outcomes result rest) :
    Hears idle incoming outcomes rest := by
  induction h with
  | last text incoming => exact .nil incoming
  | refused reads responds _ => exact .cons reads responds (.nil _)
  | confirmed reads responds _ _ ih => exact .cons reads responds ih

theorem sent_ne_nil (h : Converses idle texts incoming sent outcomes result rest) : sent ≠ [] := by
  cases h <;> exact List.cons_ne_nil _ _

theorem sent_prefix (h : Converses idle texts incoming sent outcomes result rest) :
    sent <+: texts := by
  induction h with
  | last text => exact List.prefix_refl [text]
  | refused => exact List.cons_prefix_cons.2 ⟨rfl, List.nil_prefix⟩
  | confirmed _ _ _ _ ih => exact List.cons_prefix_cons.2 ⟨rfl, ih⟩

/-- A response is read behind every line that is sent, but not behind the last of all. -/
theorem length_outcomes (h : Converses idle texts incoming sent outcomes result rest) :
    outcomes.length = min sent.length (texts.length - 1) := by
  induction h with
  | last text => rfl
  | refused => simp
  | confirmed _ _ _ others ih =>
    have := others.sent_ne_nil
    simp only [List.length_cons] at ih ⊢
    omega

/-- A line is sent if and only if the response to the one before ends with the prompt. -/
theorem lt_length_sent_iff (h : Converses idle texts incoming sent outcomes result rest) (i : Nat) :
    i + 1 < sent.length ↔ ∃ outcome, outcomes[i]? = some outcome ∧ Confirms outcome := by
  induction h generalizing i with
  | last text => simp
  | refused _ _ unconfirmed => cases i <;> simp [unconfirmed]
  | confirmed _ _ confirms others ih =>
    cases i with
    | zero => simpa [confirms] using List.length_pos_iff.2 others.sent_ne_nil
    | succ i => simpa using ih i

theorem eq_ok_iff (h : Converses idle texts incoming sent outcomes result rest) :
    result = .ok () ↔ sent = texts := by
  induction h with
  | last text => simp
  | refused => simp
  | confirmed _ _ _ _ ih => simpa using ih

/-- The error is that of the response that does not end with the prompt. -/
theorem eq_error_iff (h : Converses idle texts incoming sent outcomes result rest)
    (failure : Error) :
    result = .error failure ↔ ∃ o ∈ outcomes, ¬ Confirms o ∧ failure = refusal o := by
  induction h with
  | last text => simp
  | refused _ _ unconfirmed => simp [unconfirmed, eq_comm]
  | confirmed _ _ confirms _ ih => simpa [confirms] using ih

theorem eq_noPrompt_iff (h : Converses idle texts incoming sent outcomes result rest) :
    result = .error (.noPrompt prompt) ↔
      ∃ line, .ok line ∈ outcomes ∧ ¬ prompt.toList <:+ line.toList := by
  rw [h.eq_error_iff]
  constructor
  · rintro ⟨outcome, mem, unconfirmed, failure_eq⟩
    cases outcome with
    | ok line => exact ⟨line, mem, unconfirmed⟩
    | error failure =>
      obtain ⟨e, rfl⟩ := h.hears.eq_io mem
      exact absurd failure_eq nofun
  · rintro ⟨line, mem, unconfirmed⟩
    exact ⟨.ok line, mem, unconfirmed, rfl⟩

theorem eq_error_iff_mem (h : Converses idle texts incoming sent outcomes result rest)
    {failure : Error} (other : failure ≠ .noPrompt prompt) :
    result = .error failure ↔ .error failure ∈ outcomes := by
  rw [h.eq_error_iff]
  constructor
  · rintro ⟨outcome, mem, -, rfl⟩
    cases outcome with
    | ok line => exact absurd rfl other
    | error failure => exact mem
  · exact fun mem => ⟨.error failure, mem, not_false, rfl⟩

end Converses

section

variable (echo : Bool) {l : Line} {rest : List Arrival} {readings : List Reading}
  {outcome : Except Error String}

theorem sendLine_eq (h : l.Accepting) (text : String) : ∃ events, sendLine text l =
    (.ok (), { l with
      written := l.written ++ lineBytes text, flushes := l.flushes + 1, events }) := by
  let logged : Line := l.emit (log ("dBUG <- " ++ text))
  have text_written := Talk.write_eq (l := logged) ⟨h.peer, h.writeError, h.maxWrite, h.paused⟩
    (Bytes.ofText text)
  have end_written := Talk.write_eq
    (l := { logged with written := logged.written ++ Bytes.ofText text })
    ⟨h.peer, h.writeError, h.maxWrite, h.paused⟩ #[LineEditor.lineFeed]
  refine ⟨logged.events, ?_⟩
  rw [sendLine, Outcome.bind_of_ok (rfl : Talk.emit _ l = _), Talk.writeLine,
    Outcome.bind_of_ok text_written, Outcome.bind_of_ok end_written, Array.append_assoc]
  rfl

theorem isPrefixOf_reverse_iff (line : String) :
    prompt.toList.reverse.isPrefixOf line.toList.reverse = true ↔ Confirms (.ok line) := by
  rw [List.isPrefixOf_iff_prefix, List.reverse_prefix]
  exact Iff.rfl

theorem waitPrompt_of_confirms (reads : Reads readSize l.idle l.incoming readings rest)
    (responds : Responds prompt readings outcome) (confirms : Confirms outcome) :
    ∃ events, waitPrompt echo prompt l = (.ok (), { l with incoming := rest, events }) := by
  obtain ⟨events, read⟩ := readResponse_of_responds echo reads responds
  refine ⟨events, ?_⟩
  cases outcome with
  | error failure => exact confirms.elim
  | ok line =>
    rw [waitPrompt, Outcome.bind_of_ok read, if_pos ((isPrefixOf_reverse_iff line).2 confirms)]
    rfl

theorem waitPrompt_of_not_confirms (reads : Reads readSize l.idle l.incoming readings rest)
    (responds : Responds prompt readings outcome) (unconfirmed : ¬ Confirms outcome) :
    ∃ events, waitPrompt echo prompt l =
      (.error (refusal outcome), { l with incoming := rest, events }) := by
  obtain ⟨events, read⟩ := readResponse_of_responds echo reads responds
  refine ⟨events, ?_⟩
  cases outcome with
  | error failure => exact Outcome.bind_of_error read
  | ok line =>
    rw [waitPrompt, Outcome.bind_of_ok read,
      if_neg fun ended => unconfirmed ((isPrefixOf_reverse_iff line).1 ended)]
    rfl

/-- Sending some lines goes as their responses tell. -/
theorem converse_converses (h : l.Accepting) (text : String) (others : List String) :
    ∃ sent outcomes result rest flushes events,
      Converses l.idle (text :: others) l.incoming sent outcomes result rest ∧
      converse echo (text :: others) l = (result, { l with
        incoming := rest, written := l.written ++ linesBytes sent, flushes, events }) := by
  induction others generalizing l text with
  | nil =>
    obtain ⟨events, line_sent⟩ := sendLine_eq h text
    refine ⟨[text], [], .ok (), l.incoming, l.flushes + 1, events, .last text l.incoming, ?_⟩
    rw [converse, line_sent, linesBytes_singleton]
  | cons next others ih =>
    obtain ⟨events, line_sent⟩ := sendLine_eq h text
    obtain ⟨readings, between, outcome, reads, responds⟩ := exists_responds prompt l.idle l.incoming
    let asked : Line :=
      { l with written := l.written ++ lineBytes text, flushes := l.flushes + 1, events }
    by_cases confirms : Confirms outcome
    · obtain ⟨events', awaited⟩ := waitPrompt_of_confirms echo (l := asked) reads responds confirms
      obtain ⟨sent, outcomes, result, rest, flushes, events'', converses, others_sent⟩ :=
        ih (l := { asked with incoming := between, events := events' })
          ⟨h.peer, h.writeError, h.maxWrite, h.paused⟩ next
      refine ⟨_, _, result, rest, flushes, events'', .confirmed reads responds confirms converses,
        ?_⟩
      rw [converse, Outcome.bind_of_ok line_sent, Outcome.bind_of_ok awaited, others_sent,
        linesBytes_cons, ← Array.append_assoc]
    · obtain ⟨events', awaited⟩ :=
        waitPrompt_of_not_confirms echo (l := asked) reads responds confirms
      refine ⟨_, _, _, between, l.flushes + 1, events', .refused reads responds confirms, ?_⟩
      rw [converse, Outcome.bind_of_ok line_sent, Outcome.bind_of_error awaited,
        linesBytes_singleton]

end

/-! ## Runs -/

/-- The lines of a whole run. -/
def runLines (file address : String) : List String := ["", "dn " ++ file, "go " ++ address]

theorem run_eq (echo : Bool) (file address : String) :
    run echo file address = converse echo (runLines file address) := by
  simp only [run, attention, download, go, runLines, converse, bind_assoc]

/-- A run on a line that takes all that is written.  The lines that are sent are the first of an
empty one, the one that fetches the file and the one that starts it; each of the last two is sent if
and only if the responses to all lines before it end with the prompt.  The run succeeds if and only
if all three are sent.  It fails for the want of a prompt if and only if a response ends without it,
and with any other error if and only if a response breaks off with that. -/
theorem run_awaits_prompts {l : Line} (h : l.Accepting) (echo : Bool) (file address : String) :
    ∃ sent outcomes result l', run echo file address l = (result, l') ∧
      l'.written = l.written ++ linesBytes sent ∧
      sent <+: ["", "dn " ++ file, "go " ++ address] ∧ 0 < sent.length ∧
      Hears l.idle l.incoming outcomes l'.incoming ∧ outcomes.length = min sent.length 2 ∧
      (1 < sent.length ↔ ∃ first, outcomes[0]? = some first ∧ Confirms first) ∧
      (2 < sent.length ↔ ∃ first second, outcomes = [first, second] ∧
        Confirms first ∧ Confirms second) ∧
      (result = .ok () ↔ sent = ["", "dn " ++ file, "go " ++ address]) ∧
      (result = .error (.noPrompt prompt) ↔
        ∃ line, .ok line ∈ outcomes ∧ ¬ prompt.toList <:+ line.toList) ∧
      ∀ failure, failure ≠ .noPrompt prompt →
        (result = .error failure ↔ .error failure ∈ outcomes) := by
  obtain ⟨sent, outcomes, result, rest, flushes, events, converses, run⟩ :=
    converse_converses echo h "" ["dn " ++ file, "go " ++ address]
  refine ⟨sent, outcomes, result, _, (congrFun (run_eq echo file address) l).trans run, rfl,
    converses.sent_prefix, List.length_pos_iff.2 converses.sent_ne_nil, converses.hears,
    converses.length_outcomes, converses.lt_length_sent_iff 0, ?_, converses.eq_ok_iff,
    converses.eq_noPrompt_iff, fun _ other => converses.eq_error_iff_mem other⟩
  constructor
  · intro all_sent
    obtain ⟨first, first_eq, first_confirms⟩ :=
      (converses.lt_length_sent_iff 0).1 (Nat.lt_of_succ_lt all_sent)
    obtain ⟨second, second_eq, second_confirms⟩ := (converses.lt_length_sent_iff 1).1 all_sent
    have length_le : outcomes.length ≤ 2 := converses.length_outcomes ▸ Nat.min_le_right _ _
    refine ⟨first, second, ?_, first_confirms, second_confirms⟩
    match outcomes, first_eq, second_eq, length_le with
    | [_, _], rfl, rfl, _ => rfl
  · rintro ⟨first, second, rfl, -, second_confirms⟩
    exact (converses.lt_length_sent_iff 1).2 ⟨second, rfl, second_confirms⟩

/-- A prompt in two pieces. -/
def promptPieces : List Bytes := [Bytes.ofText "dBU", Bytes.ofText "G> "]

/-- A prompt in three pieces, behind a finished line and around an erased character. -/
def editedPieces : List Bytes :=
  [Bytes.ofText "ok\ndBX", Bytes.ofText "\x08UG>", Bytes.ofText " "]

/-- Prompts in pieces let the file be fetched and started, and what comes behind them is not read.
If the far end keeps silent behind the first of them, the file is not started. -/
theorem run_awaits_prompts_in_pieces :
    let answered : Line :=
      { incoming := promptPieces.map .data ++ (editedPieces.map .data ++ [.data #[0x21]]) }
    let silent : Line := { incoming := promptPieces.map .data, idle := .silent }
    (∃ l', run true "kernel" "0x20000" answered = (.ok (), l') ∧
      l'.written = Bytes.ofText "\ndn kernel\ngo 0x20000\n" ∧ l'.incoming = [.data #[0x21]]) ∧
    ∃ l', run true "kernel" "0x20000" silent = (.error (.noPrompt prompt), l') ∧
      l'.written = Bytes.ofText "\ndn kernel\n" ∧ l'.incoming = [] := by
  intro answered silent
  have whole : Responds prompt (promptPieces.map .ok) (.ok prompt) :=
    responds_of_cutting (by decide) (by decide) (by decide) (by decide)
  have edited : Responds prompt (editedPieces.map .ok) (.ok prompt) :=
    responds_of_cutting (by decide) (by decide) (by decide) (by decide)
  have confirms : Confirms (.ok prompt) := List.suffix_refl _
  constructor
  · obtain ⟨sent, outcomes, result, l', run_eq, written_eq, sent_prefix, some_sent, hears,
      length_eq, second_sent, third_sent, ok_iff, -⟩ :=
      run_awaits_prompts (l := answered) ⟨rfl, rfl, nofun, rfl⟩ true "kernel" "0x20000"
    obtain ⟨-, rfl, rest_eq⟩ := hears.eq_pair length_eq some_sent second_sent
      (.of_pieces (by decide)) whole confirms (.cons (.of_pieces (by decide)) edited (.nil _))
    obtain rfl := sent_prefix.eq_of_length_le (third_sent.2 ⟨_, _, rfl, confirms, confirms⟩)
    obtain rfl := ok_iff.2 rfl
    exact ⟨l', run_eq, by rw [written_eq]; decide, rest_eq⟩
  · obtain ⟨sent, outcomes, result, l', run_eq, written_eq, sent_prefix, some_sent, hears,
      length_eq, second_sent, third_sent, -, no_prompt, -⟩ :=
      run_awaits_prompts (l := silent) ⟨rfl, rfl, nofun, rfl⟩ true "kernel" "0x20000"
    have unconfirmed : ¬ Confirms (.ok (LineEditor.edited #[])) := by
      show ¬ prompt.toList <:+ _
      decide
    have reads : Reads readSize silent.idle silent.incoming (promptPieces.map .ok) [] := by
      rw [← List.append_nil silent.incoming]
      exact .of_pieces (by decide)
    obtain ⟨two_sent, rfl, rest_eq⟩ := hears.eq_pair length_eq some_sent second_sent reads whole
      confirms (.cons (.cons rfl (.nil [])) (responds_idle prompt .silent) (.nil _))
    have two_only : sent.length = 2 := by
      by_contra
      obtain ⟨first, second, outcomes_eq, -, second_confirms⟩ := third_sent.1 (by omega)
      cases outcomes_eq
      exact unconfirmed second_confirms
    obtain rfl : sent = ["", "dn " ++ "kernel"] := by
      rw [List.prefix_iff_eq_take.1 sent_prefix, two_only]
      rfl
    have result_eq := no_prompt.2 ⟨_, List.mem_cons_of_mem _ List.mem_cons_self, unconfirmed⟩
    exact ⟨l', by rw [run_eq, result_eq], by rw [written_eq]; decide, rest_eq⟩

end BareMetal.Target.Monitor
