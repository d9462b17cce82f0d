import BareMetal.Shell.Arithmetic
import BareMetal.Shell.Process
import BareMetal.Shell.Split

/-!
# Expansion

Words become texts: parameters, commands and formulas are replaced by what they stand for, and what
comes from them may be split into fields and taken for patterns of paths.
-/

namespace BareMetal.Shell

open Host

namespace Expand

/-- How a word is expanded. -/
structure How where
  /-- Into any number of texts, which are split and may be patterns of paths. -/
  split : Bool := false
  /-- Into a pattern. -/
  pattern : Bool := false
  /-- As if double quotes were around it. -/
  quoted : Bool := false
  /-- The word may begin with a home directory. -/
  tilde : Bool := false
  /-- The word sets a variable, whose value may be made of home directories. -/
  setting : Bool := false
  /-- The word stands for a parameter, so that it may be split itself. -/
  inParameter : Bool := false

/-- What is kept from its meaning is told apart in the output. -/
def How.keeps (h : How) : Bool := h.split || h.pattern

/-- Puts out a value. -/
def putValue (h : How) (o : Output) (cs : List Char) : Output :=
  cs.foldl (fun o c =>
    o.put (.char c (h.keeps && h.quoted && (c = '\\' || WordReader.meaningful.contains c)))) o

/-! ## Parameters -/

/-- The parameters as one text, in which they are separated by what the place asks for. -/
def joined (s : State) (all split quoted : Bool) : List Char :=
  let separator : List Char :=
    if all && quoted && split then [Atom.gap]
    else match s.value? "IFS" with
      | none => [' ']
      | some separators =>
        if split && !quoted then [Atom.gap] else separators.toList.take 1
  List.intercalate separator (s.parameters.map String.toList)

/-- The value of a parameter. -/
def value? (s : State) (split quoted : Bool) (name : Raw) : Option (List Char) :=
  match name with
  | "$" => some (Nat.toDigits 10 State.processId)
  | "?" => some (Nat.toDigits 10 s.status)
  | "#" => some (Nat.toDigits 10 s.parameters.length)
  | "!" => s.jobs.head?.map fun (process, _) => Nat.toDigits 10 process
  | "-" => some s.optionLetters
  | "@" => some (joined s true split quoted)
  | "*" => some (joined s false split quoted)
  | _ =>
    if name.toList.all Char.isDigit then
      match (Numeral.ofDigits? 10 name.toList).getD 0 with
      | 0 => some s.name.toList
      | n + 1 => (s.parameters[n]?).map String.toList
    else (s.value? name).map String.toList

/-- Lets what has been put out from some place on be split, if that is how it is expanded. -/
def record (s : State) (h : How) (name : Raw) (first : Nat) (o : Output) : Output :=
  let onlyGaps := h.quoted && name.startsWith "@" && s.parameters ≠ []
  if h.quoted && !onlyGaps then o else o.splitFrom first onlyGaps

/-- Fails because a parameter is missing. -/
def missing {α : Type} (name : Raw) (message : Raw) : Act α := Act.fail (name ++ ": " ++ message)

/-- Fails if the parameter has no value, but has to have one. -/
def demandValue (name : Raw) (v : Option (List Char)) : Act Unit := do
  if v.isNone && (← get).hasOption "nounset" then missing name "parameter not set"

/-- A value without what a pattern matches at one of its ends. -/
def putTrimmed (h : How) (o : Output) (atEnd greedy : Bool) (pattern value : List Char) :
    Output :=
  let (first, past) := Glob.trim atEnd greedy (Glob.ofText pattern) value
  putValue h o ((value.take past).drop first)

/-! ## Home directories -/

/-- The name in front of the end of a home directory. -/
def homeName? (setting : Bool) : Word → Option (List Char)
  | [] => some []
  | .char c false :: rest =>
    if c = '/' || (setting && c = ':') then some [] else (homeName? setting rest).map (c :: ·)
  | _ => none

/-- The home directory of somebody, or of nobody in particular. -/
def home? (s : State) (name : List Char) : Option Raw :=
  if name = [] then s.value? "HOME"
  else if name = "root".toList then some "/root"
  else none

/-! ## Words -/

/-- What a command prints, without the ends of lines at its end. -/
def commandOutput (r : Runner) (c : Command) : Act (List Char) := do
  match c with
  | .nothing => return []
  | c =>
    let s ← get
    let (number, inner) := s.openTarget { target := .pipe #[] }
    let after := inProcess r (fun s => r.command c false (s.lead 1 number)) inner
    set { after with status := s.status, outputStatus := after.status }
    if !after.isRunning then throw ()
    let cs := (Raw.ofBytes (after.caught number)).toList.filter (· ≠ Atom.gap)
    return (cs.reverse.dropWhile (· = '\n')).reverse

/-- Where the expansion of a word is. -/
structure Walk where
  quoted : Bool := false
  /-- Where the characters of the word begin that may be split. -/
  run : Option Nat := none
  /-- A home directory may begin. -/
  tilde : Bool := false
  /-- The name of the variable that is set is over. -/
  named : Bool := false
  /-- So many parts are already expanded. -/
  skip : Nat := 0
  /-- The quotes stand around all parameters and around nothing else. -/
  bare : Bool := false

/-- Lets the characters of the word be split that have been put out last. -/
def Walk.endRun (w : Walk) (o : Output) : Output :=
  match w.run with
  | some first => o.splitFrom first false
  | none => o

/-- Quotes around all parameters and nothing else begin in front of these parts. -/
def isBare : Word → Bool
  | .parameter name .plain _ _ :: .mark :: _ => name == "@"
  | _ => false

/-- A character that has no special meaning. -/
def putChar (h : How) (c : Char) (w : Walk) (o : Output) : Walk × Output :=
  let splits := h.inParameter && !h.quoted && !w.quoted
  ({ w with
    run := if splits then some (w.run.getD o.atoms.size) else none
    tilde := h.setting && (c = ':' || (c = '=' && !w.named))
    named := w.named || c = '=' }, o.put (.char c false))

mutual

/-- Expands a part of a word. -/
def expandPart (r : Runner) (h : How) : Part → Output → Act Output
  | .char c kept, o => return o.put (.char c (kept && h.keeps))
  | .mark, o => return o
  | .output c, o => do
    let cs ← commandOutput r c
    let o' := putValue h o cs
    return if h.quoted then o' else o'.splitFrom o.atoms.size false
  | .arithmetic ps, o => do
    let inner ← expandParts r {} ps {} {}
    let n ← Arithmetic.value (String.ofList inner.text)
    let o' := putValue h o (Raw.ofInt n).toList
    return if h.quoted then o' else o'.splitFrom o.atoms.size false
  | .parameter name use orNull word, o => do
    let split : Bool := match use with
      | .instead | .length => false
      | _ => h.split
    let v := value? (← get) split h.quoted name
    let absent : Bool := v.all fun cs => orNull && cs.isEmpty
    let inWord := { h with tilde := true, inParameter := true }
    let first := o.atoms.size
    let put (s : State) (cs : List Char) : Output :=
      record s h name first (putValue h o cs)
    match use with
    | .malformed => Act.fail "Bad substitution"
    | .plain =>
      demandValue name v
      if v.isNone then return o else return put (← get) (v.getD [])
    | .otherwise =>
      if absent then expandParts r inWord word { tilde := true, named := true } o
      else return put (← get) (v.getD [])
    | .instead =>
      if absent then return o else expandParts r inWord word { tilde := true, named := true } o
    | .assign =>
      if absent then
        let inner ← expandParts r { tilde := true } word { tilde := true } {}
        Act.assign name (String.ofList inner.text)
        return put (← get) ((value? (← get) split h.quoted name).getD [])
      else return put (← get) (v.getD [])
    | .demand =>
      if absent then
        let inner ← expandParts r { tilde := true } word { tilde := true } {}
        if word.isEmpty then
          missing name ("parameter not set" ++ if orNull then " or null" else "")
        else missing name (String.ofList inner.text)
      else return put (← get) (v.getD [])
    | .length =>
      demandValue name v
      return put (← get) (Nat.toDigits 10 (v.getD []).length)
    | .trim atEnd greedy =>
      demandValue name v
      if v.isNone then return o
      else
        let inner ← expandParts r { pattern := true, tilde := true } word { tilde := true } {}
        return record (← get) h name first
          (putTrimmed h o atEnd greedy inner.pattern (v.getD []))

/-- Expands the parts of a word. -/
def expandParts (r : Runner) (h : How) : List Part → Walk → Output → Act Output
  | [], w, o => return w.endRun o
  | p :: rest, w, o => do
    if 0 < w.skip then expandParts r h rest { w with skip := w.skip - 1 } o
    else match p with
    | .char '~' false =>
      let s ← get
      let name := if w.tilde then homeName? h.setting rest else none
      match name.bind fun name => (home? s name).map fun dir => (name, dir) with
      | some (name, dir) =>
        let o := putValue { h with quoted := true } (w.endRun o) dir.toList
        expandParts r h rest { w with run := none, tilde := false, skip := name.length } o
      | none =>
        let (w, o) := putChar h '~' w o
        expandParts r h rest w o
    | .char c false =>
      let (w, o) := putChar h c w o
      expandParts r h rest w o
    | .mark =>
      let o := w.endRun o
      let w := { w with run := none, tilde := false }
      if !w.quoted && isBare rest then expandParts r h rest { w with bare := true } o
      else
        expandParts r h rest { w with quoted := !w.quoted } (if h.keeps then o.put .mark else o)
    | p =>
      let o := w.endRun o
      let o ← expandPart r { h with quoted := h.quoted || w.quoted || w.bare } p o
      expandParts r h rest
        { w with run := none, tilde := false, bare := false, skip := if w.bare then 1 else 0 } o

end

/-! ## Texts -/

def expand (r : Runner) (h : How) (w : Word) : Act Output :=
  expandParts r h w { tilde := h.tilde } {}

/-- The texts that a word stands for. -/
def texts (r : Runner) (w : Word) : Act (List Raw) := do
  let o ← expand r { split := true, tilde := true } w
  let s ← get
  let fields := Split.fields s.separators.toList none o
  return fields.flatMap fun field =>
    match if s.hasOption "noglob" then [] else Glob.paths s (Atom.pattern true false field) with
    | [] => [String.ofList (Atom.text field)]
    | paths => paths

/-- The one text that a word stands for. -/
def text (r : Runner) (w : Word) : Act Raw := do
  return String.ofList (← expand r { tilde := true } w).text

/-- The text of a word that sets a variable. -/
def settingText (r : Runner) (w : Word) : Act Raw := do
  return String.ofList (← expand r { setting := true } w).text

/-- The text of a document. -/
def documentText (r : Runner) (w : Word) : Act Raw := do
  return String.ofList (← expand r { quoted := true } w).text

/-- The pattern that a word is. -/
def pattern (r : Runner) (w : Word) : Act (List Glob.Item) := do
  return Glob.ofText (← expand r { pattern := true, tilde := true } w).pattern

end Expand

end BareMetal.Shell
