import BareMetal.Bytes
import BareMetal.Disc.Field
import BareMetal.Text.Blank
import BareMetal.Text.Split

/-!
# Descriptions of a boot header

The text that gives values to the fields of a boot header: a line `name: value` for each, blank
lines aside.  Area symbols are brought into the positional form that the header holds, in which
the letters `J`, `U` and `E` have a place each.
-/

namespace BareMetal.Disc

/-- Why a boot header cannot be made. -/
inductive Error where
  | templateSize (expected actual : Nat)
  | unknownField (name : String)
  | malformedLine (line : Nat) (text : String)
  | fieldTooLong (field : Field) (value : String)
  | notAscii (field : Field) (value : String)
  | invalidAreaSymbol (value : String)
  deriving DecidableEq, Repr

def Error.message : Error → String
  | templateSize expected actual => s!"template must be {expected} bytes, got {actual} bytes"
  | unknownField name => s!"unknown field: {name}"
  | malformedLine line text => s!"malformed line {line}: {text}"
  | fieldTooLong field value =>
    "field `" ++ field.name ++ "` value `" ++ value ++ "` is longer than " ++
      toString field.length ++ " characters"
  | notAscii field value => "field `" ++ field.name ++ "` value `" ++ value ++ "` is not ASCII"
  | invalidAreaSymbol value =>
    "invalid area symbol in `" ++ value ++ "` (only J, U and E are allowed)"

/-- The letter if it occurs among the symbols, else a blank. -/
def areaColumn (letter : Char) (symbols : List Char) : Char :=
  if letter ∈ symbols then letter else ' '

/-- The three columns of the area symbols, each with its letter or a blank. -/
def positionalAreas (value : String) : Except Error String :=
  let symbols := value.toList
  if symbols.all fun c => c == 'J' || c == 'U' || c == 'E' then
    .ok (String.ofList
      [areaColumn 'J' symbols, areaColumn 'U' symbols, areaColumn 'E' symbols])
  else .error (.invalidAreaSymbol value)

namespace Description

/-- The value of a field as the header can hold it. -/
def checkValue (field : Field) (value : String) : Except Error String := do
  let value ← if field = .areaSymbols then positionalAreas value else .ok value
  if value.toList.any fun c => 0x80 ≤ c.toNat then throw (.notAscii field value)
  if field.length < value.utf8ByteSize then throw (.fieldTooLong field value)
  return value

/-- A line without its blanks at both ends; `number` counts from one. -/
def readLine (number : Nat) (line : List Char) : Except Error (Field × String) :=
  match Text.splitOnce ':' line with
  | none => .error (.malformedLine number (String.ofList line))
  | some (name, value) =>
    let name := String.ofList (Text.trim name)
    match Field.find? name with
    | none => .error (.unknownField name)
    | some field => do
      return (field, ← checkValue field (String.ofList (Text.trim value)))

/-- The lines that are not blank, trimmed, with their numbers. -/
def numberedLines (text : String) : List (Nat × List Char) :=
  (((Text.lines text.toList).map Text.trim).zipIdx 1).filterMap fun (line, number) =>
    if line = [] then none else some (number, line)

/-- The fields and values that a description gives, in its order. -/
def parse (text : String) : Except Error (List (Field × String)) :=
  (numberedLines text).mapM fun (number, line) => readLine number line

end Description

end BareMetal.Disc
