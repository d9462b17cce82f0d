import BareMetal.Shell.Source

/-!
# Reading words

Words are read character by character.  Quotes, braces and formulas may stand inside one another,
and a stack of frames says which of them the reader is in.
-/

namespace BareMetal.Shell

/-- How scripts inside words and commands are read. -/
structure Nested where
  /-- The commands up to a token that closes them; they may be missing if that is allowed. -/
  list : Bool → Reader Command
  command : Reader Command
  /-- The commands up to the parenthesis that closes them. -/
  inParentheses : Reader Command

/-! ## Frames -/

/-- What characters mean. -/
inductive Style where
  | plain
  | double
  | single
  | arithmetic
  deriving DecidableEq, Repr

/-- What the reader is in. -/
structure Frame where
  style : Style
  /-- Double quotes are open, or count as open. -/
  quoted : Bool := false
  /-- The parameters whose braces are open, and those of them that are quoted. -/
  nest : Nat := 0
  quotedNest : Nat := 0
  /-- Quotes are open inside such a parameter. -/
  inner : Bool := false
  /-- The frame ends with its last parameter. -/
  ofParameter : Bool := false
  parentheses : Nat := 0

/-- What has begun in a word and is to be closed. -/
inductive Opening where
  | parameter (name : Raw) (use : Use) (orNull : Bool)
  | arithmetic

/-- A word as far as it has been read. -/
structure Draft where
  frame : Frame
  below : List Frame := []
  /-- The parts behind what has last begun, the latest first. -/
  parts : List Part := []
  /-- What has begun, with the parts before it. -/
  opened : List (Opening × List Part) := []
  /-- Something in the word is quoted. -/
  hasQuotes : Bool := false

/-- What is read, other than a word of a command. -/
inductive Mode where
  | word
  /-- A document, up to a line that is its delimiter if it has one. -/
  | document (delimiter : Option (List Char)) (stripped : Bool)

namespace Draft

def put (d : Draft) (p : Part) : Draft := { d with parts := p :: d.parts }

/-- Notes that quotes begin or end. -/
def putMark (m : Mode) (d : Draft) : Draft :=
  match m with
  | .word => d.put .mark
  | .document _ _ => d

def setFrame (d : Draft) (f : Frame) : Draft := { d with frame := f }

def push (d : Draft) (f : Frame) : Draft := { d with frame := f, below := d.frame :: d.below }

def pop (d : Draft) : Draft :=
  match d.below with
  | f :: below => { d with frame := f, below }
  | [] => d

def opening (d : Draft) (o : Opening) : Draft :=
  { d with parts := [], opened := (o, d.parts) :: d.opened }

/-- Closes what has last begun. -/
def close (d : Draft) : Draft :=
  match d.opened with
  | (.parameter name use orNull, before) :: opened =>
    { d with parts := .parameter name use orNull d.parts.reverse :: before, opened }
  | (.arithmetic, before) :: opened =>
    { d with parts := .arithmetic d.parts.reverse :: before, opened }
  | [] => d

/-- Quotes inside a parameter begin or end. -/
def toggle (d : Draft) : Draft :=
  if d.frame.nest = 0 then d
  else d.setFrame { d.frame with inner := !d.frame.inner }

end Draft

namespace WordReader

/-! ## Characters -/

/-- What a character is to the reader. -/
inductive Kind where
  | ending
  | newline
  | ordinary
  /-- It has a meaning in patterns, which quotes keep it from. -/
  | kept
  | backslash
  | singleQuote
  | doubleQuote
  | closingQuote
  | backquote
  | dollar
  | brace
  | opening
  | closing
  | ignored
  /-- It ends a word. -/
  | separator
  deriving DecidableEq, Repr

/-- The characters that quotes keep from their meaning in patterns. -/
def meaningful : List Char := "!*?[=~:/-]".toList

def kindOf (style : Style) : Option Char → Kind
  | none => .ending
  | some c =>
    if c = '\n' then .newline
    else match style with
    | .plain =>
      if c = '\\' then .backslash
      else if c = '\'' then .singleQuote
      else if c = '"' then .doubleQuote
      else if c = '\x60' then .backquote
      else if c = '$' then .dollar
      else if c = '\x7d' then .brace
      else if "<>();&| \t".toList.contains c then .separator
      else .ordinary
    | .double =>
      if c = '\\' then .backslash
      else if c = '"' then .closingQuote
      else if c = '\x60' then .backquote
      else if c = '$' then .dollar
      else if c = '\x7d' then .brace
      else if meaningful.contains c then .kept
      else .ordinary
    | .single =>
      if c = '\'' then .closingQuote
      else if c = '\\' || meaningful.contains c then .kept
      else .ordinary
    | .arithmetic =>
      if c = '\\' then .backslash
      else if c = '\x60' then .backquote
      else if c = '$' then .dollar
      else if c = '\x7d' then .brace
      else if c = '(' then .opening
      else if c = ')' then .closing
      else if c = '"' then .ignored
      else .ordinary

/-- A backslash in front of a character stands for nothing but itself. -/
def keepsBackslash (m : Mode) (f : Frame) (c : Char) : Bool :=
  let inDocument : Bool := match m with
    | .word => false
    | .document _ _ => true
  f.quoted && c ≠ '\\' && c ≠ '\x60' && c ≠ '$' &&
    (c ≠ '"' || (inDocument && f.nest = 0)) && (c ≠ '\x7d' || f.nest = 0)

/-! ## Parameters -/

/-- The signs behind the name of a parameter in braces. -/
def useOf (c : Char) : Option Use :=
  match c with
  | '\x7d' => some .plain
  | '-' => some .otherwise
  | '+' => some .instead
  | '?' => some .demand
  | '=' => some .assign
  | _ => none

/-- What is done with a parameter in braces, behind its name. -/
def readUse : Reader (Use × Bool) := do
  match ← Reader.next with
  | some ':' =>
    match (← Reader.next).bind useOf with
    | some .plain => return (.malformed, true)
    | some use => return (use, true)
    | none => return (.malformed, true)
  | some '%' =>
    if (← Reader.peekJoined) = some '%' then
      Reader.advance
      return (.trim true true, false)
    else return (.trim true false, false)
  | some '#' =>
    if (← Reader.peekJoined) = some '#' then
      Reader.advance
      return (.trim false true, false)
    else return (.trim false false, false)
  | some c => return ((useOf c).getD .malformed, false)
  | none => return (.malformed, false)

/-- The name of a parameter in braces. -/
def readName (c : Char) : Reader (List Char) := do
  let kind := if c.isDigit then Char.isDigit else Raw.isNameChar
  Reader.takeWhile kind (← get).limit

/-- A parameter behind a sign that asks for its length, or the parameter that the sign is. -/
def readLength : Reader (Raw × Use × Bool) := do
  match ← Reader.peekJoined with
  | none => return ("#", .malformed, false)
  | some c =>
    if Raw.isNameChar c then
      let name ← readName c
      let closed := (← Reader.peekJoined) = some '\x7d'
      return (String.ofList name, if closed then .length else .malformed, false)
    else
      let s ← get
      Reader.advance
      if c ≠ '\x7d' && (← Reader.peekJoined) = some '\x7d' then
        return (String.singleton c, if Raw.isSpecial c then .length else .malformed, false)
      else
        set s
        return ("#", ← readUse)

/-- A parameter in braces: its name, its use, and whether a null value counts as none. -/
def readBraced : Reader (Raw × Use × Bool) := do
  match ← Reader.peekJoined with
  | none => return ("", .malformed, false)
  | some c =>
    if Raw.isNameChar c then
      let name ← readName c
      return (String.ofList name, ← readUse)
    else if c = '\x7d' then return ("", .malformed, false)
    else
      Reader.advance
      if c = '#' then readLength
      else if Raw.isSpecial c then return (String.singleton c, ← readUse)
      else return ("", .malformed, false)

/-- A word with a parameter whose braces have begun. -/
def openParameter (d : Draft) (name : Raw) (use : Use) (orNull : Bool) : Draft :=
  let style := match use with
    | .trim _ _ => .plain
    | _ => if d.frame.style = .arithmetic then .double else d.frame.style
  let d := if style ≠ d.frame.style || d.frame.inner then
      d.push { style, ofParameter := true, quoted := style ≠ .plain }
    else d
  let f := d.frame
  let d := d.setFrame
    { f with nest := f.nest + 1, quotedNest := if f.quoted then f.quotedNest + 1 else f.quotedNest }
  d.opening (.parameter name use orNull)

/-- A parameter without braces, or with them. -/
def readParameter (d : Draft) : Reader Draft := do
  match ← Reader.peek with
  | some '\x7b' =>
    Reader.advance
    let (name, use, orNull) ← readBraced
    if use = .plain then return d.put (.parameter name .plain false [])
    else return openParameter d name use orNull
  | some c =>
    let name ← if Raw.isNameStart c then Reader.takeWhile Raw.isNameChar (← get).limit
      else do
        Reader.advance
        pure [c]
    return d.put (.parameter (String.ofList name) .plain false [])
  | none => return d

/-! ## Scripts in words -/

/-- A script between backquotes, in which backslashes have a meaning of their own. -/
def takeBackquoted (quoted : Bool) : Nat → List Char → Reader (List Char)
  | 0, _ => Reader.fail "EOF in backquote substitution"
  | fuel + 1, taken => do
    match ← Reader.next with
    | none => Reader.fail "EOF in backquote substitution"
    | some '\x60' => return taken.reverse
    | some '\\' =>
      match ← Reader.peek with
      | none => Reader.fail "EOF in backquote substitution"
      | some c =>
        Reader.advance
        let known := c = '\\' || c = '\x60' || c = '$' || (quoted && c = '"')
        takeBackquoted quoted fuel (if known then c :: taken else c :: '\\' :: taken)
    | some c =>
      if c = '\n' then Reader.newLine
      takeBackquoted quoted fuel (c :: taken)

/-- The command that a script between backquotes is. -/
def readBackquoted (n : Nested) (quoted : Bool) : Reader Part := do
  let cs ← takeBackquoted quoted (← get).limit []
  let s ← get
  let inner := { Source.ofText cs s.aliases s.nextKey with documents := s.documents }
  match (n.list true).run inner with
  | .error e => throw e
  | .ok (c, after) =>
    set { s with documents := after.documents, nextKey := after.nextKey }
    return .output c

/-- The command in parentheses. -/
def readCommand (n : Nested) : Reader Part := do
  let pending := (← get).pending
  modify fun s => { s with pending := [] }
  let c ← n.inParentheses
  modify fun s => { s with pending }
  return .output c

/-- What a dollar sign begins. -/
def readDollar (n : Nested) (d : Draft) : Reader Draft := do
  if (← get).check.delimiter then return d.put (.char '$' false)
  match ← Reader.peekJoined with
  | some '(' =>
    Reader.advance
    if (← Reader.peekJoined) = some '(' then
      Reader.advance
      return (d.push { style := .arithmetic, quoted := true }).opening .arithmetic
    else return d.put (← readCommand n)
  | some c =>
    if c = '\x7b' || Raw.isNameStart c || Raw.isSpecial c then readParameter d
    else return d.put (.char '$' false)
  | none => return d.put (.char '$' false)

/-! ## Words -/

/-- What a backslash makes of the character behind it. -/
def readBackslash (m : Mode) (d : Draft) : Reader Draft := do
  match ← Reader.peek with
  | none => return d.put (.char '\\' true)
  | some c =>
    Reader.advance
    if c = '\n' then Reader.newLine
    let d := if keepsBackslash m d.frame c then d.put (.char '\\' true) else d
    return { d.put (.char c true) with hasQuotes := true }

/-- The end of quotes. -/
def closeQuote (m : Mode) (c : Char) (d : Draft) : Draft :=
  let inDocument : Bool := match m with
    | .word => false
    | .document _ _ => true
  if inDocument && d.frame.nest = 0 then d.put (.char c false)
  else
    let f := d.frame
    let d := if f.quotedNest = 0 then d.setFrame { f with style := .plain, quoted := false } else d
    let d := { d with hasQuotes := true }
    ((if c = '"' then d.toggle else d)).putMark m

/-- The end of a parameter in braces. -/
def closeBrace (d : Draft) : Draft :=
  let f := d.frame
  if f.nest = 0 || f.inner then d.put (.char '\x7d' false)
  else
    let f := { f with nest := f.nest - 1 }
    if f.nest = 0 && f.ofParameter then (d.setFrame f).pop.close
    else (d.setFrame { f with quotedNest := f.quotedNest - 1 }).close

/-- A parenthesis that may be the first of those that end a formula. -/
def closeParenthesis (d : Draft) : Reader Draft := do
  let f := d.frame
  if 0 < f.parentheses then
    return (d.put (.char ')' false)).setFrame { f with parentheses := f.parentheses - 1 }
  else if (← Reader.peekJoined) = some ')' then
    Reader.advance
    return d.pop.close
  else return d.put (.char ')' false)

/-- The line that begins is the delimiter of a document, which is over then. -/
def endsDocument (m : Mode) (style : Style) : Reader Bool := do
  match m with
  | .document (some delimiter) stripped =>
    if style ≠ .single then Reader.join (← get).limit
    if stripped then
      let rec skip : Nat → Reader Unit
        | 0 => return
        | fuel + 1 => do
          if (← Reader.peek) = some '\t' then
            Reader.advance
            skip fuel
      skip (← get).limit
    let s ← get
    let behind := s.unread.drop delimiter.length
    if s.unread.take delimiter.length = delimiter ∧ behind.head?.all (· = '\n') then
      set { s with strata := [], rest := behind.drop 1, line := s.line + 1 }
      return true
    else return false
  | _ => return false

/-- Reads on; `fresh` says that a line begins. -/
def readOn (n : Nested) (m : Mode) : Nat → Bool → Draft → Reader Draft
  | 0, _, _ => Reader.fail "Word too long"
  | fuel + 1, fresh, d => do
    if fresh then
      if ← endsDocument m d.frame.style then return d
    let c? ← if d.frame.style = .single then Reader.peek else Reader.peekJoined
    let c := c?.getD ' '
    match kindOf d.frame.style c? with
    | .ending => return d
    | .newline =>
      if d.frame.style = .plain && d.frame.nest = 0 then return d
      else
        Reader.advance
        Reader.newLine
        readOn n m fuel true (d.put (.char c false))
    | .separator =>
      if d.frame.nest = 0 then return d
      else
        Reader.advance
        readOn n m fuel false (d.put (.char c false))
    | .ordinary =>
      Reader.advance
      readOn n m fuel false (d.put (.char c false))
    | .kept =>
      Reader.advance
      let kept : Bool := match m with
        | .word => true
        | .document _ _ => d.frame.quoted || 0 < d.frame.nest
      readOn n m fuel false (d.put (.char c kept))
    | .backslash =>
      Reader.advance
      readOn n m fuel false (← readBackslash m d)
    | .singleQuote =>
      Reader.advance
      readOn n m fuel false ((d.setFrame { d.frame with style := .single }).putMark m)
    | .doubleQuote =>
      Reader.advance
      let d := d.setFrame { d.frame with style := .double, quoted := true }
      readOn n m fuel false (d.toggle.putMark m)
    | .closingQuote =>
      Reader.advance
      readOn n m fuel false (closeQuote m c d)
    | .backquote =>
      Reader.advance
      if (← get).check.delimiter then readOn n m fuel false (d.put (.char c false))
      else readOn n m fuel false (d.put (← readBackquoted n d.frame.quoted))
    | .dollar =>
      Reader.advance
      readOn n m fuel false (← readDollar n d)
    | .brace =>
      Reader.advance
      readOn n m fuel false (closeBrace d)
    | .opening =>
      Reader.advance
      let f := { d.frame with parentheses := d.frame.parentheses + 1 }
      readOn n m fuel false ((d.put (.char c false)).setFrame f)
    | .closing =>
      Reader.advance
      readOn n m fuel false (← closeParenthesis d)
    | .ignored =>
      Reader.advance
      readOn n m fuel false d

/-- Reads a word or a document; gives it with whether something in it is quoted. -/
def read (n : Nested) (m : Mode) (style : Style) : Reader (Word × Bool) := do
  let d ← readOn n m (← get).limit true { frame := { style, quoted := style = .double } }
  if d.frame.style = .arithmetic then Reader.fail "Missing '))'"
  let isWord : Bool := match m with
    | .word => true
    | .document _ _ => false
  if d.frame.style ≠ .plain && isWord then Reader.fail "Unterminated quoted string"
  if d.frame.nest ≠ 0 then Reader.fail "Missing '\x7d'"
  return (d.parts.reverse, d.hasQuotes)

end WordReader

end BareMetal.Shell
