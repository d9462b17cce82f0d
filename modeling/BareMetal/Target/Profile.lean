import BareMetal.Target.Download
import BareMetal.Text.Json

/-!
# Target profiles

The part of a download that a target needs for itself: commands before loading and after starting,
a pause, and whether start addresses are Thumb symbols.  A profile is written in JSON, as an object
or as an array of its settings in order; an unknown or repeated setting makes it unreadable.
-/

namespace BareMetal.Target

/-- The settings of a target. -/
structure Profile where
  description : Option String := none
  preLoad : List String := []
  settleMs : Option Nat := none
  postLoad : List String := []
  thumb : Bool := false
  deriving DecidableEq, Repr

namespace Profile

/-- The names of the settings in order. -/
def settingNames : List String := ["description", "pre_load", "settle_ms", "post_load", "thumb"]

/-- A decimal number without a leading zero, of at most 64 bits. -/
def count? (text : List Char) : Option Nat :=
  if text.head? = some '0' ∧ text ≠ ['0'] then none
  else (Numeral.ofDigits? 10 text).filter fun n => text ≠ [] ∧ n < 0x10000000000000000

def text? : Json → Option String
  | .text s => some s
  | _ => none

/-- The profile with one setting more, if its value is of the right kind. -/
def set? (p : Profile) (name : String) (value : Json) : Option Profile :=
  match name, value with
  | "description", .null => some p
  | "description", .text s => some { p with description := some s }
  | "pre_load", .array items => do return { p with preLoad := ← items.mapM text? }
  | "settle_ms", .null => some p
  | "settle_ms", .number text => do return { p with settleMs := some (← count? text) }
  | "post_load", .array items => do return { p with postLoad := ← items.mapM text? }
  | "thumb", .bool b => some { p with thumb := b }
  | _, _ => none

/-- The profile with the given settings. -/
def ofSettings? (settings : List (String × Json)) : Option Profile :=
  if (settings.map (·.1)).Nodup then
    settings.foldlM (fun p (name, value) => p.set? name value) {}
  else none

def ofJson? : Json → Option Profile
  | .object members => ofSettings? members
  | .array items =>
    if items.length ≤ settingNames.length then ofSettings? (settingNames.zip items) else none
  | _ => none

/-- The profile that a text holds. -/
def parse? (s : String) : Option Profile := (Json.parse? s).bind ofJson?

/-- A download on a target.  The target's commands come behind those of the download, and its pause
replaces the one that the download has. -/
def apply (p : Profile) (d : Download) : Download :=
  { d with
    preLoad := d.preLoad ++ p.preLoad
    settle := p.settleMs
    postLoad := d.postLoad ++ p.postLoad }

end Profile

end BareMetal.Target
