import BareMetal.Shell.Word

/-!
# Reading tokens

A script is a row of words, redirections and operators.  What a word is depends on where it stands,
so the token that was read last can be looked at once more.
-/

namespace BareMetal.Shell

namespace TokenReader

/-! ## Documents -/

/-- Reads the documents that begin with the line. -/
def readDocuments (n : Nested) : Reader Unit := do
  let pending := (← get).pending
  modify fun s => { s with pending := [] }
  for p in pending do
    let style : Style := if p.literal then .single else .double
    let (w, _) ← WordReader.read n (.document (some p.delimiter) p.stripped) style
    modify fun s => { s with documents := (p.key, w) :: s.documents }

/-- Takes the documents for empty for which there is no line. -/
def emptyDocuments : Reader Unit := modify fun s =>
  { s with
    documents := s.pending.map (fun p => (p.key, [])) ++ s.documents
    pending := [] }

/-! ## Redirections -/

/-- Passes over a character if it is the next one. -/
def skip? (c : Char) : Reader Bool := do
  if (← Reader.peekJoined) = some c then
    Reader.advance
    return true
  else return false

/-- The sign of a redirection, for a stream that is given or the usual one. -/
def readRedirection (stream : Option Nat) : Reader Unit := do
  let sign ← Reader.next
  let put (r : Redirection) : Reader Unit := modify fun s => { s with redirection := r }
  modify fun s => { s with document := none }
  if sign = some '>' then
    let stream := stream.getD 1
    if ← skip? '>' then put (.file stream .append [])
    else if ← skip? '|' then put (.file stream .replace [])
    else if ← skip? '&' then put (.copy stream [])
    else put (.file stream .write [])
  else
    let stream := stream.getD 0
    if ← skip? '<' then
      let stripped ← skip? '-'
      let key := (← get).nextKey
      modify fun s => { s with
        nextKey := key + 1
        document := some { key, delimiter := [], literal := false, stripped }
        redirection := .document stream key }
    else if ← skip? '&' then put (.copy stream [])
    else if ← skip? '>' then put (.file stream .update [])
    else put (.file stream .read [])

/-! ## Tokens -/

def found (t : Token) : Reader Token := do
  modify fun s => { s with last := t }
  return t

/-- A word, or the redirection that a digit or nothing stands in front of. -/
def readWord (n : Nested) : Reader Token := do
  let (w, quoted) ← WordReader.read n .word .plain
  let c ← Reader.peek
  let stream : Option (Option Nat) := match w with
    | [] => some none
    | [.char c false] => (Numeral.ofDigits? 10 [c]).map some
    | _ => none
  match stream with
  | some stream =>
    if (c = some '>' || c = some '<') && !quoted then
      readRedirection stream
      found .redirection
    else
      modify fun s => { s with word := w, quoted }
      found .word
  | none =>
    modify fun s => { s with word := w, quoted }
    found .word

/-- Passes over the rest of a line. -/
def skipLine : Nat → Reader Unit
  | 0 => return
  | fuel + 1 => do
    match ← Reader.peek with
    | none | some '\n' => return
    | some _ =>
      Reader.advance
      skipLine fuel

/-- The next token as it stands in the script. -/
def readPlain (n : Nested) : Nat → Reader Token
  | 0 => Reader.fail "Script too long"
  | fuel + 1 => do
    let operator (text : String) : Reader Token := found (.operator text)
    match ← Reader.peekJoined with
    | none => found .ending
    | some ' ' | some '\t' =>
      Reader.advance
      readPlain n fuel
    | some '#' =>
      skipLine (← get).limit
      readPlain n fuel
    | some '\n' =>
      Reader.advance
      Reader.newLine
      found .newline
    | some '&' =>
      Reader.advance
      if ← skip? '&' then operator "&&" else operator "&"
    | some '|' =>
      Reader.advance
      if ← skip? '|' then operator "||" else operator "|"
    | some ';' =>
      Reader.advance
      if ← skip? ';' then operator ";;" else operator ";"
    | some '(' =>
      Reader.advance
      operator "("
    | some ')' =>
      Reader.advance
      operator ")"
    | some _ => readWord n

/-- The next token, or the last one again. -/
def readAny (n : Nested) : Reader Token := do
  let s ← get
  if s.again then
    set { s with again := false }
    return s.last
  else readPlain n s.limit

/-- The next token behind some empty lines, each of which may begin documents. -/
def skipLines (n : Nested) : Nat → Token → Reader Token
  | 0, t => return t
  | fuel + 1, t => do
    if t = .newline then
      readDocuments n
      skipLines n fuel (← readAny n)
    else return t

/-- The text of an alias that may be read at this place. -/
def alias? (s : Source) (name : List Char) : Option (Raw × Raw) :=
  let name := String.ofList name
  if s.isRead name then none
  else (s.aliases.lookup name).map fun text => (name, text)

/-- The next token; aliases are replaced at most as often as there are steps. -/
def readWith (n : Nested) : Nat → Check → Reader Token
  | 0, _ => Reader.fail "Script too long"
  | fuel + 1, check => do
    let t ← readAny n
    let t ← if check.newlines then skipLines n (← get).limit t else pure t
    let s ← get
    let check := { check with aliases := check.aliases || s.check.aliases }
    Reader.setCheck {}
    if t ≠ .word || s.quoted then return t
    match Word.plainText? s.word with
    | none => return t
    | some text =>
      if check.keywords && Token.keywords.contains (String.ofList text) then
        found (.keyword (String.ofList text))
      else if !check.aliases then return t
      else match alias? s text with
        | none => return t
        | some (name, text) =>
          modify fun s => s.enter name text
          readWith n fuel check

/-- The next token. -/
def next (n : Nested) : Reader Token := do
  readWith n (← get).limit (← get).check

/-- The next token, with something that is looked for in it. -/
def nextFor (n : Nested) (check : Check) : Reader Token := do
  Reader.setCheck check
  next n

/-- What a redirection leads to. -/
def readTarget (n : Nested) : Reader Redirection := do
  let r := (← get).redirection
  let document := (← get).document
  if document.isSome then Reader.setCheck { delimiter := true }
  if (← next n) ≠ .word then Reader.unexpected none
  let s ← get
  match document with
  | some p =>
    let p := { p with delimiter := s.word.text, literal := s.quoted }
    set { s with pending := s.pending ++ [p], document := none }
    return r
  | none =>
    match r with
    | .file stream mode _ => return .file stream mode s.word
    | .copy stream _ => return .copy stream s.word
    | .document stream key => return .document stream key

end TokenReader

end BareMetal.Shell
