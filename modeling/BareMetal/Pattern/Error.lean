import BareMetal.Pattern.Place
import BareMetal.Text.Numeral
import BareMetal.Text.Split

/-!
# Malformed patterns

Why a text is no pattern, and where it goes wrong.  The report shows the text with marks under the
places in question.
-/

namespace BareMetal.Pattern

/-- What is wrong with a text that should be a pattern. -/
inductive Flaw where
  | classEscape
  | classOrder
  | classBoundary
  | classUnclosed
  | countEmpty
  | countInvalid
  | countOrder
  | countUnclosed
  | escapeUnfinished
  | escapeUnknown
  | hexEmpty
  | hexDigit
  | hexInvalid
  | flagDangling
  | flagTwice
  | flagsUnfinished
  | flagUnknown
  | negationTwice
  | groupUnclosed
  | groupUnopened
  | nameEmpty
  | nameInvalid
  | nameTwice
  | nameUnclosed
  | nothingRepeated
  | backReference
  | lookAround
  | edgeUnclosed
  | edgeUnfinished
  | edgeUnknown
  | propertyInvalid
  | tooDeep
  | unknownProperty
  | unknownClass
  | unknownCases
  | codeOutside
  | notUtf8
  | tooLarge
  | wordEdge
  deriving DecidableEq, Repr

/-- How deep groups, classes, rows, alternatives and repetitions may lie in each other. -/
def depthLimit : Nat := 250

/-- The bytes that a pattern may take up once it is carried out. -/
def sizeLimit : Nat := 10485760

def Flaw.text : Flaw → String
  | classEscape => "invalid escape sequence found in character class"
  | classOrder => "invalid character class range, the start must be <= the end"
  | classBoundary => "invalid range boundary, must be a literal"
  | classUnclosed => "unclosed character class"
  | countEmpty => "repetition quantifier expects a valid decimal"
  | countInvalid => "decimal literal invalid"
  | countOrder => "invalid repetition count range, the start must be <= the end"
  | countUnclosed => "unclosed counted repetition"
  | escapeUnfinished => "incomplete escape sequence, reached end of pattern prematurely"
  | escapeUnknown => "unrecognized escape sequence"
  | hexEmpty => "hexadecimal literal empty"
  | hexDigit => "invalid hexadecimal digit"
  | hexInvalid => "hexadecimal literal is not a Unicode scalar value"
  | flagDangling => "dangling flag negation operator"
  | flagTwice => "duplicate flag"
  | flagsUnfinished => "expected flag but got end of regex"
  | flagUnknown => "unrecognized flag"
  | negationTwice => "flag negation operator repeated"
  | groupUnclosed => "unclosed group"
  | groupUnopened => "unopened group"
  | nameEmpty => "empty capture group name"
  | nameInvalid => "invalid capture group character"
  | nameTwice => "duplicate capture group name"
  | nameUnclosed => "unclosed capture group name"
  | nothingRepeated => "repetition operator missing expression"
  | backReference => "backreferences are not supported"
  | lookAround => "look-around, including look-ahead and look-behind, is not supported"
  | edgeUnclosed =>
    "special word boundary assertion is either unclosed or contains an invalid character"
  | edgeUnfinished =>
    "found either the beginning of a special word boundary or a bounded repetition on a \\b " ++
      "with an opening brace, but no closing brace"
  | edgeUnknown =>
    "unrecognized special word boundary assertion, valid choices are: " ++
      "start, end, start-half or end-half"
  | propertyInvalid => "invalid Unicode character class"
  | tooDeep =>
    "exceed the maximum number of nested parentheses/brackets (" ++
      Numeral.decimal depthLimit ++ ")"
  | unknownProperty => "Unicode property not found"
  | unknownClass =>
    "Unicode-aware Perl class not found (make sure the unicode-perl feature is enabled)"
  | unknownCases =>
    "Unicode-aware case insensitivity matching is not available " ++
      "(make sure the unicode-case feature is enabled)"
  | codeOutside => "Unicode not allowed here"
  | notUtf8 => "pattern can match invalid UTF-8"
  | tooLarge =>
    "Compiled regex exceeds size limit of " ++ Numeral.decimal sizeLimit ++ " bytes."
  | wordEdge => "error building NFA"

/-- A flaw, and the places of the text that it concerns, from left to right. -/
structure Error where
  flaw : Flaw
  spans : List Span
  deriving DecidableEq, Repr

namespace Error

/-- A line without the carriage return at its end. -/
def dropReturn (line : List Char) : List Char :=
  if line.getLast? = some '\r' then line.dropLast else line

/-- The lines of a text; a line feed ends one, and a carriage return before it is part of the
end. -/
def lines (text : List Char) : List (List Char) :=
  let parts := Text.splitOn '\n' text
  parts.dropLast.map dropReturn ++ (parts.getLast?.filter (· ≠ [])).toList

/-- Marks under the columns from `column` on; every place gets at least one. -/
def marks (column : Nat) : List Span → List Char
  | [] => []
  | s :: rest =>
    let width := max 1 (s.last.column - s.first.column)
    List.replicate (s.first.column - column) ' ' ++ List.replicate width '^' ++
      marks (max column s.first.column + width) rest

/-- A line behind its margin, with the marks that belong under it. -/
def markLine (spans : List Span) (margin : List Char) (line : List Char) : List Char :=
  let under := marks 1 spans
  margin ++ line ++ ['\n'] ++
    if spans = [] then [] else List.replicate margin.length ' ' ++ under ++ ['\n']

/-- The lines of a text with the marks under them; `width` digits tell the number of a line. -/
def markLines (spans : List Span) (width : Nat) (text : List Char) : List Char :=
  ((lines text).zipIdx 1).flatMap fun (line, n) =>
    let number := (Numeral.decimal n).toList
    let margin := if width = 0 then List.replicate 4 ' '
      else List.replicate (width - number.length) ' ' ++ number ++ [':', ' ']
    markLine (spans.filter fun s => s.inOneLine && s.first.line == n) margin line

/-- Where a text begins and ends that takes up several lines. -/
def describe (s : Span) : String :=
  let at' (p : Place) (column : Nat) :=
    "line " ++ Numeral.decimal p.line ++ " (column " ++ Numeral.decimal column ++ ")"
  "on " ++ at' s.first s.first.column ++ " through " ++ at' s.last (s.last.column - 1) ++ "\n"

/-- The text with marks under it, and what is wrong.  What concerns no place is told alone. -/
def report (e : Error) (text : String) : String :=
  let cs := text.toList
  if e.spans = [] then e.flaw.text
  else
    let count := (lines cs).length + if cs.getLast? = some '\n' then 1 else 0
    let width := if count ≤ 1 then 0 else (Numeral.decimal count).length
    let body := String.ofList (markLines e.spans width cs)
    let rule := String.ofList (List.replicate 79 '~') ++ "\n"
    let several := String.join ((e.spans.filter (!·.inOneLine)).map describe)
    "regex parse error:\n" ++
      (if cs.contains '\n' then rule ++ body ++ rule ++ several else body) ++
      "error: " ++ e.flaw.text

end Error

end BareMetal.Pattern
