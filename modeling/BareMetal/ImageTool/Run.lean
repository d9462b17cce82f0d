import BareMetal.Deck.ObjectDeck
import BareMetal.Design.BaseAddress
import BareMetal.Disc.BootHeader
import BareMetal.Disc.SliceOrder
import BareMetal.Disk.Amiga
import BareMetal.Disk.Floppy
import BareMetal.Disk.HardDisk
import BareMetal.Host.Exit
import BareMetal.ImageTool.Output
import BareMetal.ImageTool.Toolchain
import BareMetal.MemoryImage

/-!
# Runs of the image tool

Each job reads its inputs, builds in memory what it makes, and writes that.
-/

namespace BareMetal.ImageTool

open Host

/-! ## Errors of the builders -/

/-- A disk builder's outcome as a step. -/
def ofDisk {α : Type} : Except Disk.Error α → Run α
  | .ok a => pure a
  | .error (.fault f) => throw (.fault f)
  | .error e => Run.fail e.message

/-- A deck builder's outcome as a step. -/
def ofDeck {α : Type} : Except Deck.Error α → Run α
  | .ok a => pure a
  | .error (.fault f) => throw (.fault f)
  | .error e => Run.fail e.message

/-- The causes of an error in a design file. -/
def designCauses (e : Design.Error) : List String := [e.message]

/-! ## Disks -/

def printKernel (kernel : Bytes) (sectors : Nat) : Run Unit :=
  Run.printLine ("- Kernel is " ++ Numeral.decimal kernel.size ++ " bytes, " ++
    Numeral.decimal sectors ++ " sectors")

/-- An address as boot code is given it. -/
def addressText (a : UInt32) : String := "0x" ++ Numeral.hex a.toNat

/-- A segment as boot code is given it. -/
def segmentText (segment : UInt32) : String := "0x" ++ Numeral.hexPad 4 segment.toNat

def amigaDefines (load entry : UInt32) (sectors : Nat) : List Define :=
  [.ofString "LOADADDRESS" (addressText load),
   .ofString "NSECTORS" (Numeral.decimal sectors),
   .ofString "ENTRYPOINT" (addressText entry)]

def amigaFloppy (o : ToolchainOptions) (kernelPath : String) (load entry : UInt32)
    (output : String) (boot : CodeSource) : Run Unit := do
  let kernel ← Run.readFile kernelPath
  let sectors := Disk.Amiga.kernelSectors kernel.size
  printKernel kernel sectors
  let block ← Toolchain.bootCode o "boot block" boot (amigaDefines load entry sectors) .m68k
  let image ← ofDisk (Disk.Amiga.build block kernel)
  let sum ← ofDisk (Disk.Amiga.checksum block)
  Run.log .debug "sweetada_image::adf"
    ("ADF boot block checksum 0x" ++ Numeral.hexPad 8 sum.toNat ++ ", kernel " ++
      Numeral.decimal sectors ++ " sectors")
  Output.writeFile output image

def pcFloppy (o : ToolchainOptions) (kernelPath : String) (segment : UInt32) (target : String)
    (device : Bool) (boot : CodeSource) : Run Unit := do
  let kernel ← Run.readFile kernelPath
  let layout ← ofDisk (Disk.Floppy.Layout.plan kernel.size)
  printKernel kernel layout.kernelSectors.toNat
  let defines := layout.bootDefines (segmentText segment)
  let bootSector ← Toolchain.bootCode o "boot sector" boot defines .i8086
  let image ← ofDisk (layout.build bootSector kernel)
  Output.writeDisk target image device

def printGeometry (l : Disk.HardDisk.Layout) : Run Unit :=
  let number (n : UInt32) := Numeral.decimal n.toNat
  Run.printLine ("- Disk geometry " ++ number l.geometry.cylinders ++ "/" ++
    number l.geometry.heads ++ "/" ++ number l.geometry.sectorsPerTrack ++
    ", partition at sector " ++ number l.partitionStart ++ ", " ++
    number l.partitionSize ++ " sectors")

def pcHardDisk (o : ToolchainOptions) (kernelPath : String) (segment : UInt32) (target : String)
    (device : Bool) (mbr boot : CodeSource) : Run Unit := do
  let kernel ← Run.readFile kernelPath
  let layout ← ofDisk (Disk.HardDisk.Layout.plan kernel.size)
  printKernel kernel layout.kernelSectors.toNat
  printGeometry layout
  let record ← Toolchain.bootCode o "MBR" mbr [] .i8086
  let defines := layout.bootDefines (segmentText segment)
  let bootSector ← Toolchain.bootCode o "boot sector" boot defines .i8086
  let image ← ofDisk (layout.build record bootSector kernel)
  let number (n : UInt32) := Numeral.decimal n.toNat
  Run.log .debug "sweetada_image::pcx86"
    ("Hard disk " ++ number layout.geometry.cylinders ++ " cylinders, partition start " ++
      number layout.partitionStart ++ " size " ++ number layout.partitionSize)
  Output.writeDisk target image device

/-! ## Disc files -/

/-- Tells of the fields that have been set and of those that have not. -/
def logHeader (b : Disc.BootHeader.Built) : Run Unit := do
  b.values.forM fun (field, value) =>
    Run.log .debug "sweetada_image::dreamcast" (field.name ++ ": \"" ++ value ++ "\"")
  b.unset.forM fun field =>
    Run.log .warn "sweetada_image::dreamcast"
      ("Field " ++ field.name ++ " not set, keeping template value")

/-- Tells of a new check value. -/
def printCrc (b : Disc.BootHeader.Built) : Run Unit := do
  if b.crcChanged then
    let was := match b.previousCrc with
      | some previous => " (was 0x" ++ Numeral.hexPad 4 previous.toNat ++ ")"
      | none => ""
    Run.printLine ("- Setting CRC to 0x" ++ Numeral.hexPad 4 b.crc.toNat ++ was)

def bootDisc (templatePath descriptionPath kernelPath headerOutput kernelOutput : String) :
    Run Unit := do
  let template ← Run.readFile templatePath
  let description ← Run.readText descriptionPath
  let header ← Run.context ("Failed to process " ++ descriptionPath)
    (Run.ofExcept (fun e => [Disc.Error.message e]) (Disc.BootHeader.build template description))
  logHeader header
  printCrc header
  let kernel ← Run.readFile kernelPath
  let ordered ← Run.ofFault (Disc.SliceOrder.arrange kernel)
  Output.writeFile headerOutput header.data
  Output.writeFile kernelOutput ordered

/-! ## Decks, memory images and packages -/

def cardDeck (address : UInt32) (loaderPath : Option String) (setsPsw : Bool)
    (input output : String) : Run Unit := do
  let binary ← Run.readFile input
  let loader ← match loaderPath with
    | some path => some <$> Run.readFile path
    | none => pure none
  let deck ← ofDeck (Deck.ObjectDeck.build binary { address, loader, setsPsw })
  Run.log .debug "sweetada_image::s360"
    ("Object deck: " ++ Numeral.decimal deck.records ++ " records")
  Run.printLine ("- Number of records written: " ++ Numeral.decimal deck.records)
  Output.writeFile output deck.bytes

def memoryImage (input : String) (output : Option String) : Run Unit := do
  let data ← Run.readFile input
  Output.writeFile (output.getD (MemoryImage.defaultName input))
    (Bytes.ofText (MemoryImage.render data))

/-- Tells of the base addresses that are found before the first malformed one. -/
def logAddresses (s : Design.System) (endpoints : List String) : Run Unit :=
  match endpoints with
  | [] => pure ()
  | e :: rest => do
    match s.find e with
    | .found a =>
      Run.log .debug "sweetada_image::qsys"
        (e ++ " base address 0x" ++ Numeral.hexPad 8 a.address.toNat)
      logAddresses s rest
    | .missing => logAddresses s rest
    | .invalid _ => pure ()

/-- Reads a design file. -/
def readSystem (path : String) : Run Design.System := do
  match Design.System.parse? (← Run.readText path) with
  | some s => return s
  | none => throw (.chain (("Failed to parse " ++ path) :: designCauses .malformed))

def addressPackage (designPath package : String) (components : List String)
    (suffix outputDirectory : String) : Run Unit := do
  let system ← readSystem designPath
  logAddresses system (components.map fun c => Design.interfaceOf c suffix)
  let addresses ← Run.context ("Failed to extract base addresses from " ++ designPath)
    (Run.ofExcept designCauses (system.extract components suffix))
  let content ← Run.ofFault (Design.AdaPackage.render package addresses)
  Output.writeFile (Path.join outputDirectory (Design.AdaPackage.fileName package))
    (Bytes.ofText content)

/-! ## Jobs -/

def perform (o : ToolchainOptions) : Job → Run Unit
  | .amigaFloppy kernel load entry output boot => amigaFloppy o kernel load entry output boot
  | .pcFloppy kernel segment target device boot => pcFloppy o kernel segment target device boot
  | .pcHardDisk kernel segment target device mbr boot =>
    pcHardDisk o kernel segment target device mbr boot
  | .bootDisc template description kernel headerOutput kernelOutput =>
    bootDisc template description kernel headerOutput kernelOutput
  | .cardDeck address loader setsPsw input output => cardDeck address loader setsPsw input output
  | .memoryImage input output => memoryImage input output
  | .addressPackage design package components suffix outputDirectory =>
    addressPackage design package components suffix outputDirectory

/-- Carries out a command line. -/
def run (o : Options) : Run Unit := do
  Run.ofExcept (fun e => ["Configuration error: " ++ e]) o.job.validate
  perform o.toolchain o.job

/-- The whole tool, from its arguments to its end. -/
def execute (arguments : List String) (w : World) : Exit :=
  Exit.ofTool tool (Options.parse w.environment arguments) run w.startLog

end BareMetal.ImageTool
