import BareMetal.ObjectFile.Reading
import BareMetal.Text.Numeral
import BareMetal.Text.Hexadecimal

/-!
# Addresses in an object file

The addresses of symbols and sections by name, which have to fit in 32 bits, and start addresses,
which are given as a number or as the name of a symbol.
-/

namespace BareMetal.ObjectFile

/-- Why an object file has no answer. -/
inductive Error where
  /-- The file is no object file. -/
  | invalid
  | symbolNotFound (name : String)
  | sectionNotFound (name : String)
  | addressOverflow (address : Nat)
  deriving DecidableEq, Repr

def Error.message : Error → String
  | invalid => "not a valid ELF file: the tables cannot be read"
  | symbolNotFound name => "symbol `" ++ name ++ "` not found"
  | sectionNotFound name => "section `" ++ name ++ "` not found"
  | addressOverflow address => "address 0x" ++ Numeral.hex address ++ " does not fit in 32 bits"

/-- An address as a 32-bit word. -/
def narrow (address : Nat) : Except Error UInt32 :=
  if address < Word32.bound then .ok (UInt32.ofNat address) else .error (.addressOverflow address)

namespace Library

variable (library : Library)

/-- The contents of a file. -/
def contents (file : Bytes) : Except Error Contents :=
  match library.parse? file with
  | some c => .ok c
  | none => .error .invalid

/-- The value of the first symbol of a name. -/
def symbolValue (file : Bytes) (name : String) : Except Error Nat := do
  match (← library.contents file).symbol? name with
  | some e => return e.address
  | none => throw (.symbolNotFound name)

/-- The address of the first section of a name. -/
def sectionValue (file : Bytes) (name : String) : Except Error Nat := do
  match (← library.contents file).section? name with
  | some e => return e.address
  | none => throw (.sectionNotFound name)

def symbolAddress (file : Bytes) (name : String) : Except Error UInt32 := do
  narrow (← library.symbolValue file name)

def sectionAddress (file : Bytes) (name : String) : Except Error UInt32 := do
  narrow (← library.sectionValue file name)

end Library

/-! ## With the reader of tables -/

def symbolValue (file : Bytes) (name : String) : Except Error Nat := reader.symbolValue file name

def sectionValue (file : Bytes) (name : String) : Except Error Nat := reader.sectionValue file name

def symbolAddress (file : Bytes) (name : String) : Except Error UInt32 :=
  reader.symbolAddress file name

def sectionAddress (file : Bytes) (name : String) : Except Error UInt32 :=
  reader.sectionAddress file name

end BareMetal.ObjectFile

namespace BareMetal

/-! ## Start addresses -/

/-- Where a kernel starts. -/
inductive StartAddress where
  | address (a : UInt32)
  | symbol (name : String)
  deriving DecidableEq, Repr

namespace StartAddress

/-- A text that starts with `0x` is an address, any other one the name of a symbol. -/
def parse (s : String) : Except String StartAddress :=
  if Hexadecimal.hasMarker s.toList then (Hexadecimal.parse s).map .address
  else if s = "" then .error "Start symbol must not be empty"
  else .ok (.symbol s)

/-- The address to start at.  In Thumb mode the lowest bit of an address is a flag, which is
cleared. -/
def resolveWith (library : ObjectFile.Library) (start : StartAddress) (file : Option Bytes)
    (thumb : Bool) : Except ObjectFile.Error UInt32 := do
  let a ← match start, file with
    | .address a, _ => pure a
    | .symbol name, some file => library.symbolAddress file name
    | .symbol name, none => throw (.symbolNotFound name)
  return if thumb then a &&& 0xFFFFFFFE else a

/-- The address to start at, with the reader of tables. -/
def resolve (start : StartAddress) (file : Option Bytes) (thumb : Bool) :
    Except ObjectFile.Error UInt32 :=
  start.resolveWith ObjectFile.reader file thumb

end StartAddress

end BareMetal
