import BareMetal.CommandLine.Parse

/-!
# Options of the image tool

The command line of the tool that makes boot media: which medium, from which files, and with which
toolchain boot code is built.
-/

namespace BareMetal.ImageTool

open CommandLine

/-- Boot code, ready or in source. -/
inductive CodeSource where
  | binary (path : String)
  | assembly (path : String)
  deriving DecidableEq, Repr

/-- The tools that build boot code. -/
structure ToolchainOptions where
  compiler : Option String := none
  linker : Option String := none
  /-- The tool that writes a listing of what has been built. -/
  disassembler : Option String := none
  /-- The machine for the listing, instead of that of the boot code. -/
  machine : Option String := none
  buildDirectory : String := "."
  deriving DecidableEq, Repr

/-- What to make. -/
inductive Job where
  | amigaFloppy (kernel : String) (load entry : UInt32) (output : String) (boot : CodeSource)
  | pcFloppy (kernel : String) (segment : UInt32) (target : String) (device : Bool)
      (boot : CodeSource)
  | pcHardDisk (kernel : String) (segment : UInt32) (target : String) (device : Bool)
      (mbr boot : CodeSource)
  | bootDisc (template description kernel headerOutput kernelOutput : String)
  | cardDeck (address : UInt32) (loader : Option String) (setsPsw : Bool) (input output : String)
  | memoryImage (input : String) (output : Option String)
  | addressPackage (design package : String) (components : List String)
      (suffix outputDirectory : String)
  deriving DecidableEq, Repr

/-- A command line of the image tool. -/
structure Options where
  toolchain : ToolchainOptions := {}
  job : Job
  deriving DecidableEq, Repr

/-! ## The grammar -/

def globals : List Argument :=
  [{ Argument.option "cc" .path with env := some "TOOLCHAIN_CC" },
   { Argument.option "ld" .path with env := some "TOOLCHAIN_LD" },
   { Argument.option "objdump" .path with env := some "TOOLCHAIN_OBJDUMP" },
   Argument.option "objdump-machine" .text,
   Argument.withDefault "build-dir" .path "."]

/-- The two options of which one names boot code. -/
def codeOptions (what : String) : List Argument :=
  [Argument.option (what ++ "-bin") .path, Argument.option (what ++ "-src") .path]

def codeGroup (what : String) : List String := [what ++ "-bin", what ++ "-src"]

def pcPositionals : List Argument :=
  [.needed "kernel" .path, .needed "boot-segment" .word, .needed "target" .path]

/-- The image tool. -/
def tool : Tool where
  name := "sweetada-gen"
  version := "0.1.0"
  globals := globals
  subcommands :=
    [{ name := "adf"
       options := codeOptions "boot"
       positionals :=
         [.needed "kernel" .path, .needed "load-address" .word, .needed "entry-point" .word,
          .needed "output" .path]
       groups := [codeGroup "boot"] },
     { name := "pc-floppy"
       options := .flag "device" none :: codeOptions "boot"
       positionals := pcPositionals
       groups := [codeGroup "boot"] },
     { name := "pc-hd"
       options := .flag "device" none :: codeOptions "mbr" ++ codeOptions "boot"
       positionals := pcPositionals
       groups := [codeGroup "mbr", codeGroup "boot"] },
     { name := "dreamcast"
       options :=
         [.withDefault "ip-out" .path "IP.BIN", .withDefault "kernel-out" .path "1ST_READ.BIN"]
       positionals :=
         [.needed "template" .path, .needed "ip-txt" .path, .needed "kernel" .path] },
     { name := "s360"
       options :=
         [{ Argument.withDefault "address" .word "18" with short := some 'a' },
          { Argument.option "loader" .path with short := some 'l' },
          .flag "psw" (some 'p')]
       positionals := [.needed "input" .path, .needed "output" .path] },
     { name := "logisim"
       positionals := [.needed "input" .path, .option "output" .path] },
     { name := "qsys"
       options := [.withDefault "suffix" .text "s1", .withDefault "output-dir" .path "."]
       positionals :=
         [.needed "design" .path, .needed "package" .text,
          { name := "endpoints", action := .many .text, required := true }] }]

/-! ## Reading the matches -/

/-- The boot code that one of two options names. -/
def codeSource (m : Matches) (what : String) : CodeSource :=
  match m.text? (what ++ "-bin") with
  | some path => .binary path
  | none => .assembly (m.text (what ++ "-src"))

def ToolchainOptions.ofMatches (m : Matches) : ToolchainOptions where
  compiler := m.text? "cc"
  linker := m.text? "ld"
  disassembler := m.text? "objdump"
  machine := m.text? "objdump-machine"
  buildDirectory := m.text "build-dir"

def Job.ofMatches (m : Matches) : String → Job
  | "adf" => .amigaFloppy (m.text "kernel") (m.word "load-address") (m.word "entry-point")
      (m.text "output") (codeSource m "boot")
  | "pc-floppy" => .pcFloppy (m.text "kernel") (m.word "boot-segment") (m.text "target")
      (m.has "device") (codeSource m "boot")
  | "pc-hd" => .pcHardDisk (m.text "kernel") (m.word "boot-segment") (m.text "target")
      (m.has "device") (codeSource m "mbr") (codeSource m "boot")
  | "dreamcast" => .bootDisc (m.text "template") (m.text "ip-txt") (m.text "kernel")
      (m.text "ip-out") (m.text "kernel-out")
  | "s360" => .cardDeck (m.word "address") (m.text? "loader") (m.has "psw") (m.text "input")
      (m.text "output")
  | "logisim" => .memoryImage (m.text "input") (m.text? "output")
  | _ => .addressPackage (m.text "design") (m.text "package") (m.texts "endpoints")
      (m.text "suffix") (m.text "output-dir")

def Options.ofParsed (p : Parsed) : Options where
  toolchain := .ofMatches p.given
  job := .ofMatches p.given p.subcommand

/-- Reads a command line of the image tool. -/
def Options.parse (env : Environment) (arguments : List String) : Except Refusal Options :=
  (CommandLine.parse tool env arguments).map .ofParsed

/-! ## What the grammar cannot say -/

/-- A letter followed by letters, digits, underscores and dots, all of them ASCII. -/
def isPackageName (name : String) : Bool :=
  name.toList.head?.any Char.isAlpha &&
    name.toList.all fun c => c.isAlphanum || c == '_' || c == '.'

/-- A segment has to fit 16 bits. -/
def validateSegment (segment : UInt32) : Except String Unit :=
  if segment ≤ 0xFFFF then .ok ()
  else .error ("Boot segment 0x" ++ Numeral.hex segment.toNat ++
    " is not a 16-bit real mode segment")

def Job.validate : Job → Except String Unit
  | .pcFloppy _ segment _ _ _ => validateSegment segment
  | .pcHardDisk _ segment _ _ _ _ => validateSegment segment
  | .addressPackage _ package _ _ _ =>
    if isPackageName package then .ok () else .error ("Invalid Ada package name: " ++ package)
  | _ => .ok ()

end BareMetal.ImageTool
