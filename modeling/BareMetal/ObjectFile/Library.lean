import BareMetal.Bytes

/-!
# What a library tells of an object file

Programs leave the parsing of object files to a library.  Of what it tells they use the symbols and
the sections, each by where its name stands, and the look-up of a name in either string table.
-/

namespace BareMetal.ObjectFile

/-- A symbol or a section: where its name stands in a string table, and its address. -/
structure Entry where
  name : Nat
  address : Nat
  deriving DecidableEq, Repr

/-- What a library tells of an object file. -/
structure Contents where
  sections : List Entry
  /-- The text at an offset of the names of the sections. -/
  sectionName? : Nat → Option String
  symbols : List Entry
  /-- The text at an offset of the names of the symbols. -/
  symbolName? : Nat → Option String

/-- A library for object files. -/
structure Library where
  /-- The contents of a file, unless it is no object file. -/
  parse? : Bytes → Option Contents

namespace Contents

/-- The first symbol of a name. -/
def symbol? (c : Contents) (name : String) : Option Entry :=
  c.symbols.find? fun e => c.symbolName? e.name = some name

/-- The first section of a name. -/
def section? (c : Contents) (name : String) : Option Entry :=
  c.sections.find? fun e => c.sectionName? e.name = some name

end Contents

end BareMetal.ObjectFile
