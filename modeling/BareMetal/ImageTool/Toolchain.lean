import BareMetal.BootCode.Define
import BareMetal.Host.Run
import BareMetal.ImageTool.Options
import BareMetal.Text.Quoted

/-!
# Building boot code

Boot code in source is compiled, linked to a flat binary that starts at address zero, and, if there
is a disassembler, listed.
-/

namespace BareMetal.ImageTool

open Host

/-- The processor that boot code runs on. -/
inductive Processor where
  | m68k
  | i8086
  deriving DecidableEq, Repr

/-- The name of a processor as a disassembler knows it. -/
def Processor.machine : Processor → String
  | m68k => "m68k"
  | i8086 => "i8086"

/-- What a disassembler has to be told besides the machine. -/
def Processor.disassemblerOptions : Processor → List String
  | m68k => []
  | i8086 => ["-M", "i8086"]

namespace Toolchain

def compileArguments (source object : String) (defines : List Define) : List String :=
  ["-o", object, "-c"] ++ defines.map (·.argument) ++ [source]

def linkArguments (object binary : String) : List String :=
  ["-o", binary, "-Ttext=0", "--oformat=binary", object]

/-- Lists the flat binary.  A machine that is given replaces that of the processor. -/
def listingArguments (p : Processor) (machine : Option String) (binary : String) : List String :=
  ["-D", "-b", "binary", "-m"] ++
    (match machine with
      | some machine => [machine]
      | none => p.machine :: p.disassemblerOptions) ++ [binary]

/-- The files that are made of a source. -/
structure Outputs where
  object : String
  binary : String
  listing : String
  deriving DecidableEq, Repr

/-- The files that are made of a source whose name is `name`. -/
def Outputs.ofName (directory name : String) : Outputs :=
  let path (extension : String) := Path.join directory (Path.stem name ++ extension)
  { object := path ".o", binary := path ".bin", listing := path ".lst" }

def logTarget : String := "sweetada_gen::toolchain"

def logCommand (program : String) (arguments : List String) : Run Unit :=
  Run.log .debug logTarget (program ++ " " ++ Quoted.list arguments)

def callLogged (program : String) (arguments : List String) : Run Unit := do
  logCommand program arguments
  Run.call program arguments

/-- Writes a listing of a flat binary. -/
def list (disassembler : String) (arguments : List String) (listing : String) : Run Unit := do
  logCommand disassembler arguments
  Run.writeFile listing (← Run.callFor disassembler arguments)

/-- Builds boot code with a compiler and a linker. -/
def assemble (o : ToolchainOptions) (compiler linker source : String) (defines : List Define)
    (p : Processor) : Run Bytes := do
  match Path.fileName? source with
  | none => Run.fail ("No file name in " ++ source)
  | some name =>
    let outputs := Outputs.ofName o.buildDirectory name
    callLogged compiler (compileArguments source outputs.object defines)
    callLogged linker (linkArguments outputs.object outputs.binary)
    match o.disassembler with
    | some disassembler =>
      list disassembler (listingArguments p o.machine outputs.binary) outputs.listing
    | none => pure ()
    let binary ← Run.readFile outputs.binary
    Run.printLine ("- Built " ++ outputs.binary ++ " (" ++ Numeral.decimal binary.size ++ " bytes)")
    return binary

/-- Gets boot code from its file, or builds it. -/
def bootCode (o : ToolchainOptions) (what : String) (source : CodeSource) (defines : List Define)
    (p : Processor) : Run Bytes := do
  Run.log .info "sweetada_gen::generate"
    (what ++ " defines: " ++ Text.joinWith " " (defines.map (·.argument)))
  match source with
  | .binary path => Run.readFile path
  | .assembly path =>
    match o.compiler, o.linker with
    | none, _ => Run.fail "Assembling boot code needs a compiler, use --cc or set TOOLCHAIN_CC"
    | _, none => Run.fail "Assembling boot code needs a linker, use --ld or set TOOLCHAIN_LD"
    | some compiler, some linker =>
      Run.context ("Failed to build " ++ what ++ " from " ++ path)
        (assemble o compiler linker path defines p)

end Toolchain

end BareMetal.ImageTool
