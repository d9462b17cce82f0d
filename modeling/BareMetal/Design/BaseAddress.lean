import BareMetal.Fault
import BareMetal.Design.System
import BareMetal.Text.LowerCase

/-!
# Base address constants

The base addresses of the interfaces that a kernel wants to know, looked up in a system and written
as an Ada package of named numbers.
-/

namespace BareMetal.Design

/-- Why base addresses cannot be had. -/
inductive Error where
  /-- The design file is not well formed. -/
  | malformed
  | invalidAddress (endpoint value : String)
  /-- The interfaces without a base address. -/
  | endpointNotFound (endpoints : List String)
  deriving DecidableEq, Repr

def Error.message : Error → String
  | malformed => "design file parse error: the document is malformed"
  | invalidAddress endpoint value =>
    "invalid base address `" ++ value ++ "` for " ++ endpoint
  | endpointNotFound endpoints => "endpoint(s) not found: " ++ Text.joinWith ", " endpoints

/-- A named base address. -/
structure BaseAddress where
  constant : String
  address : UInt32
  deriving DecidableEq, Repr

/-- An address in hexadecimal, with or without `0x`. -/
def address? (value : String) : Option UInt32 :=
  let cs := value.toList
  let digits := ((Text.dropPrefix? "0x".toList cs).or (Text.dropPrefix? "0X".toList cs)).getD cs
  Numeral.word32? 16 digits

/-- The name of the constant for an interface: its dots become underscores. -/
def constantName (endpoint : String) : String :=
  String.ofList (Text.replaceChar '.' "_" endpoint.toList) ++ "_ADDRESS"

/-- The interface of a component. -/
def interfaceOf (component suffix : String) : String := component ++ "." ++ suffix

/-- What a system says of an interface. -/
inductive Finding where
  | found (a : BaseAddress)
  | invalid (value : String)
  | missing
  deriving DecidableEq, Repr

namespace System

def find (s : System) (endpoint : String) : Finding :=
  match s.baseAddress? endpoint with
  | none => .missing
  | some value =>
    match address? value with
    | some address => .found { constant := constantName endpoint, address }
    | none => .invalid value

/-- The base addresses of the interfaces, in order.  The first malformed address is reported before
any interface that has none, and those are reported together. -/
def baseAddresses (s : System) (endpoints : List String) : Except Error (List BaseAddress) :=
  let findings := endpoints.map fun e => (e, s.find e)
  match findings.findSome? fun (e, f) => match f with
      | .invalid value => some (Error.invalidAddress e value)
      | _ => none with
  | some e => .error e
  | none =>
    match findings.filterMap fun (e, f) => if f = .missing then some e else none with
    | [] => .ok (findings.filterMap fun (_, f) => match f with
        | .found a => some a
        | _ => none)
    | missing => .error (.endpointNotFound missing)

/-- The base addresses of an interface of each of the components. -/
def extract (s : System) (components : List String) (suffix : String) :
    Except Error (List BaseAddress) :=
  s.baseAddresses (components.map fun c => interfaceOf c suffix)

end System

/-! ## The package -/

namespace AdaPackage

/-- `text` with blanks behind it as long as it has fewer characters than `width`. -/
def padRight (width : Nat) (text : String) : String :=
  text ++ String.ofList (List.replicate (width - text.length) ' ')

/-- The column at which the colons stand: the size of the longest name in bytes. -/
def width (addresses : List BaseAddress) : Nat :=
  (addresses.map fun a => a.constant.utf8ByteSize).foldl max 0

/-- An address as a based literal, in two groups of four digits. -/
def literal (address : UInt32) : String :=
  "16#" ++ Numeral.hexPad 4 (address.toNat / 0x10000) ++ "_" ++
    Numeral.hexPad 4 (address.toNat % 0x10000) ++ "#"

def declaration (width : Nat) (a : BaseAddress) : String :=
  "   " ++ padRight width a.constant ++ " : constant := " ++ literal a.address ++ ";\n"

/-- The lines of a package, with a declaration for each address. -/
def text (name : String) (addresses : List BaseAddress) : String :=
  "package " ++ name ++ " is\n   pragma Pure;\n" ++
    String.join (addresses.map (declaration (width addresses))) ++ "end " ++ name ++ ";\n"

/-- The text of a package.  The column of the colons has to fit a word of 16 bits. -/
def render (name : String) (addresses : List BaseAddress) : Except Fault String :=
  if width addresses < 0x10000 then .ok (text name addresses) else .error .overflow

/-- The name of the file that holds a package. -/
def fileName (name : String) : String := Text.lowerCase name ++ ".ads"

end AdaPackage

end BareMetal.Design
