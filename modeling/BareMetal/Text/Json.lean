import BareMetal.Text.Numeral
import BareMetal.Text.Split

/-!
# JSON

Documents in strict JSON.  A text is cut into tokens, and the tokens are read with a stack of the
containers that are still open.  Numbers stay as they are written, members in their order; nothing
may follow the document.
-/

namespace BareMetal

/-- A JSON document. -/
inductive Json where
  | null
  | bool (b : Bool)
  /-- A number, by its text. -/
  | number (text : List Char)
  | text (s : String)
  | array (items : List Json)
  | object (members : List (String × Json))
  deriving Repr

namespace Json

/-! ## Tokens -/

/-- A piece of a document. -/
inductive Token where
  | mark (c : Char)
  | value (v : Json)
  deriving Repr

/-- The value of a word that stands by itself. -/
def word? (word : List Char) : Option Json :=
  if word = "null".toList then some .null
  else if word = "true".toList then some (.bool true)
  else if word = "false".toList then some (.bool false)
  else if word.all fun c => c.isDigit || c ∈ ['+', '-', '.', 'e', 'E'] then some (.number word)
  else none

/-- The character that stands for itself behind a backslash, or for a control character. -/
def escape? (c : Char) : Option Char :=
  match c with
  | '"' => some '"'
  | '\\' => some '\\'
  | '/' => some '/'
  | 'b' => some '\x08'
  | 'f' => some '\x0c'
  | 'n' => some '\n'
  | 'r' => some '\r'
  | 't' => some '\t'
  | _ => none

/-- Where the reader of tokens stands.  What has been read of a word or text is kept with its
latest character first. -/
inductive Place where
  | between
  | inWord (word : List Char)
  | inText (text : List Char)
  /-- Behind a backslash. -/
  | escaped (text : List Char)
  /-- In a code of which `missing` digits are to come; `high` is the first half of a pair. -/
  | inCode (text : List Char) (high : Option Nat) (code missing : Nat)
  /-- Behind the first half of a pair. -/
  | half (text : List Char) (high : Nat)
  /-- Behind the backslash of the second half. -/
  | halfEscaped (text : List Char) (high : Nat)
  deriving Repr

/-- The place behind a code of four digits; the two halves of a pair belong together. -/
def Place.ofCode (text : List Char) (high : Option Nat) (code : Nat) : Option Place :=
  let first := 0xD800 ≤ code ∧ code < 0xDC00
  let second := 0xDC00 ≤ code ∧ code < 0xE000
  match high with
  | some h =>
    if second then
      some (.inText (Char.ofNat (0x10000 + (h - 0xD800) * 0x400 + (code - 0xDC00)) :: text))
    else none
  | none =>
    if first then some (.half text code)
    else if second then none
    else some (.inText (Char.ofNat code :: text))

def isSpace (c : Char) : Bool := c == ' ' || c == '\t' || c == '\n' || c == '\r'

def isMark (c : Char) : Bool := c ∈ ['[', ']', '\x7b', '\x7d', ',', ':']

/-- Reads on behind the tokens `found`, latest first. -/
def tokensFrom (found : List Token) : Place → List Char → Option (List Token)
  | .between, [] => some found.reverse
  | .inWord word, [] => do
    let v ← word? word.reverse
    return (Token.value v :: found).reverse
  | _, [] => none
  | .between, c :: cs =>
    if isSpace c then tokensFrom found .between cs
    else if isMark c then tokensFrom (.mark c :: found) .between cs
    else if c = '"' then tokensFrom found (.inText []) cs
    else tokensFrom found (.inWord [c]) cs
  | .inWord word, c :: cs =>
    if isSpace c ∨ isMark c then
      match word? word.reverse with
      | none => none
      | some v =>
        tokensFrom (if isMark c then .mark c :: .value v :: found else .value v :: found)
          .between cs
    else tokensFrom found (.inWord (c :: word)) cs
  | .inText t, c :: cs =>
    if c = '"' then tokensFrom (.value (.text (String.ofList t.reverse)) :: found) .between cs
    else if c = '\\' then tokensFrom found (.escaped t) cs
    else if c.toNat < 0x20 then none
    else tokensFrom found (.inText (c :: t)) cs
  | .escaped t, c :: cs =>
    if c = 'u' then tokensFrom found (.inCode t none 0 4) cs
    else match escape? c with
      | some e => tokensFrom found (.inText (e :: t)) cs
      | none => none
  | .inCode t high code missing, c :: cs =>
    match Numeral.digit? c with
    | none => none
    | some d =>
      let code := 16 * code + d
      if missing ≤ 1 then
        match Place.ofCode t high code with
        | some place => tokensFrom found place cs
        | none => none
      else tokensFrom found (.inCode t high code (missing - 1)) cs
  | .half t high, c :: cs =>
    if c = '\\' then tokensFrom found (.halfEscaped t high) cs else none
  | .halfEscaped t high, c :: cs =>
    if c = 'u' then tokensFrom found (.inCode t (some high) 0 4) cs else none

/-! ## Documents -/

/-- A container whose end has not been read, with what it holds so far, latest first. -/
inductive Frame where
  | array (items : List Json)
  | object (members : List (String × Json)) (key : String)
  deriving Repr

/-- What the tokens have come to. -/
inductive Progress where
  /-- A value has to come. -/
  | value
  /-- A value or the end of an array has to come. -/
  | firstItem
  /-- A member has to come. -/
  | key
  /-- A member or the end of an object has to come. -/
  | firstKey
  /-- The colon behind a key has to come. -/
  | colon (key : String)
  /-- A value has ended. -/
  | after (v : Json)
  deriving Repr

/-- Reads on inside the open containers, innermost first. -/
def parseFrom (opened : List Frame) : Progress → List Token → Option Json
  | .after v, [] => if opened.isEmpty then some v else none
  | _, [] => none
  | .value, .value v :: rest => parseFrom opened (.after v) rest
  | .firstItem, .value v :: rest => parseFrom opened (.after v) rest
  | .key, .value (.text key) :: rest => parseFrom opened (.colon key) rest
  | .firstKey, .value (.text key) :: rest => parseFrom opened (.colon key) rest
  | _, .value _ :: _ => none
  | progress, .mark c :: rest =>
    let opens : Bool := match progress with
      | .value => true
      | .firstItem => true
      | _ => false
    if opens ∧ c = '[' then parseFrom (.array [] :: opened) .firstItem rest
    else if opens ∧ c = '\x7b' then parseFrom (.object [] "" :: opened) .firstKey rest
    else match progress, opened with
      | .firstItem, .array _ :: up =>
        if c = ']' then parseFrom up (.after (.array [])) rest else none
      | .firstKey, .object _ _ :: up =>
        if c = '\x7d' then parseFrom up (.after (.object [])) rest else none
      | .colon key, .object members _ :: up =>
        if c = ':' then parseFrom (.object members key :: up) .value rest else none
      | .after v, .array items :: up =>
        if c = ',' then parseFrom (.array (v :: items) :: up) .value rest
        else if c = ']' then parseFrom up (.after (.array (v :: items).reverse)) rest
        else none
      | .after v, .object members key :: up =>
        if c = ',' then parseFrom (.object ((key, v) :: members) "" :: up) .key rest
        else if c = '\x7d' then parseFrom up (.after (.object ((key, v) :: members).reverse)) rest
        else none
      | _, _ => none

/-- The document in a text. -/
def parse? (s : String) : Option Json :=
  (tokensFrom [] .between s.toList).bind (parseFrom [] .value)

end Json

end BareMetal
