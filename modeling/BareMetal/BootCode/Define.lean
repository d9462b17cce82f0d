/-!
# Symbols for boot code

A preprocessor symbol through which an image tells the boot code that it is built with where the
kernel is.
-/

namespace BareMetal

/-- A preprocessor symbol, with or without a value. -/
structure Define where
  name : String
  value : Option String := none
  deriving DecidableEq, Repr

namespace Define

def flag (name : String) : Define := { name }

def ofString (name value : String) : Define := { name, value := some value }

/-- The compiler argument that defines the symbol. -/
def argument (d : Define) : String :=
  match d.value with
  | some value => s!"-D{d.name}={value}"
  | none => s!"-D{d.name}"

end Define

end BareMetal
