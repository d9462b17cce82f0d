import BareMetal.ObjectFile.Library
import BareMetal.ObjectFile.Linkage

/-!
# Contents read from tables

The library that the programs are run with.  It reads the tables of a file and refuses a file whose
linkage does not lie inside it.
-/

namespace BareMetal.ObjectFile

/-- The contents that some tables hold. -/
def Tables.contents (t : Tables) : Contents where
  sections := t.sections.map fun s => ⟨s.name, s.address⟩
  sectionName? offset := (t.sectionNames.name? offset).map String.ofList
  symbols := t.symbols.map fun s => ⟨s.name, s.value⟩
  symbolName? offset := (t.symbolNames.name? offset).map String.ofList

/-- The library that reads the tables. -/
def reader : Library where
  parse? file := ((Tables.ofFile? file).filter (·.hasWholeLinkage file)).map Tables.contents

end BareMetal.ObjectFile
