import BareMetal.ImageTool.Run
import BareMetal.Proofs.Host.Finding

/-!
# What the jobs make

The products of a job are the contents of the files that it makes, computed from its input files
(`Job.contents?`).  A run with ready boot code first computes all its products, changing no file,
and then writes them one after the other (`publishes_run`).
-/

namespace BareMetal.ImageTool

open Host Run

/-- Files to be written, by path and content. -/
abbrev Products := List (String × Bytes)

/-- Writes some files one after the other. -/
def writeAll : Products → Run Unit
  | [] => pure ()
  | (path, content) :: rest => do
    Output.writeFile path content
    writeAll rest

def CodeSource.isReady : CodeSource → Bool
  | .binary _ => true
  | .assembly _ => false

/-- The boot code is ready, and what is made goes to files. -/
def Job.isPrebuilt : Job → Bool
  | .amigaFloppy _ _ _ _ boot => boot.isReady
  | .pcFloppy _ _ _ device boot => !device && boot.isReady
  | .pcHardDisk _ _ _ device mbr boot => !device && mbr.isReady && boot.isReady
  | _ => true

/-- The paths of the files that a job makes. -/
def Job.outputs : Job → List String
  | .amigaFloppy _ _ _ output _ => [output]
  | .pcFloppy _ _ target _ _ => [target]
  | .pcHardDisk _ _ target _ _ _ => [target]
  | .bootDisc _ _ _ headerOutput kernelOutput => [headerOutput, kernelOutput]
  | .cardDeck _ _ _ _ output => [output]
  | .memoryImage input output => [output.getD (MemoryImage.defaultName input)]
  | .addressPackage _ package _ _ directory =>
    [Path.join directory (Design.AdaPackage.fileName package)]

/-! ## Products -/

section

variable (fs : FileSystem)

/-- The content of a file. -/
def bytes? (path : String) : Option Bytes := (fs.read path).toOption

/-- The content of a file that is UTF-8. -/
def text? (path : String) : Option String := (bytes? fs path).bind Utf8.decode?

def CodeSource.content? : CodeSource → Option Bytes
  | .binary path => bytes? fs path
  | .assembly _ => none

/-- The content of each output of a job, made of the files that there are; nothing if one of them
cannot be read or does not make what is asked for. -/
def Job.contents? : Job → Option (List Bytes)
  | .amigaFloppy kernel _ _ _ boot => do
    let kernel ← bytes? fs kernel
    let block ← boot.content? fs
    let image ← (Disk.Amiga.build block kernel).toOption
    return [image]
  | .pcFloppy kernel _ _ _ boot => do
    let kernel ← bytes? fs kernel
    let layout ← (Disk.Floppy.Layout.plan kernel.size).toOption
    let bootSector ← boot.content? fs
    let image ← (layout.build bootSector kernel).toOption
    return [← image.flatten.toOption]
  | .pcHardDisk kernel _ _ _ mbr boot => do
    let kernel ← bytes? fs kernel
    let layout ← (Disk.HardDisk.Layout.plan kernel.size).toOption
    let record ← mbr.content? fs
    let bootSector ← boot.content? fs
    let image ← (layout.build record bootSector kernel).toOption
    return [← image.flatten.toOption]
  | .bootDisc template description kernel _ _ => do
    let template ← bytes? fs template
    let description ← text? fs description
    let header ← (Disc.BootHeader.build template description).toOption
    let kernel ← bytes? fs kernel
    let ordered ← (Disc.SliceOrder.arrange kernel).toOption
    return [header.data, ordered]
  | .cardDeck address loader setsPsw input _ => do
    let binary ← bytes? fs input
    let loader ← match loader with
      | some path => (bytes? fs path).map some
      | none => some none
    let deck ← (Deck.ObjectDeck.build binary { address, loader, setsPsw }).toOption
    return [deck.bytes]
  | .memoryImage input _ => do
    let data ← bytes? fs input
    return [Bytes.ofText (MemoryImage.render data)]
  | .addressPackage design package components suffix _ => do
    let text ← text? fs design
    let system ← Design.System.parse? text
    let addresses ← (system.extract components suffix).toOption
    let content ← (Design.AdaPackage.render package addresses).toOption
    return [Bytes.ofText content]

end

/-! ## Steps of the jobs -/

section

variable {α : Type} {fs : FileSystem}

theorem finds_ofDisk (x : Except Disk.Error α) : Finds fs (ofDisk x) x.toOption := by
  cases x with
  | ok a => exact finds_pure a
  | error e => cases e <;> exact finds_throw _

theorem finds_ofDeck (x : Except Deck.Error α) : Finds fs (ofDeck x) x.toOption := by
  cases x with
  | ok a => exact finds_pure a
  | error e => cases e <;> exact finds_throw _

theorem finds_bootCode {boot : CodeSource} (ready : boot.isReady = true) (o : ToolchainOptions)
    (what : String) (defines : List Define) (p : Processor) :
    Finds fs (Toolchain.bootCode o what boot defines p) (boot.content? fs) := by
  cases boot with
  | binary path => exact (finds_log _ _ _).bind fun _ _ => finds_readFile path
  | assembly path => cases ready

theorem finds_logHeader (b : Disc.BootHeader.Built) : Finds fs (logHeader b) (some ()) :=
  (finds_forM (fun _ => finds_log _ _ _) _).bind fun _ _ => finds_forM (fun _ => finds_log _ _ _) _

theorem finds_printCrc (b : Disc.BootHeader.Built) : Finds fs (printCrc b) (some ()) := by
  unfold printCrc
  split
  · exact finds_printLine _
  · exact finds_pure ()

theorem finds_logAddresses (s : Design.System) (endpoints : List String) :
    Finds fs (logAddresses s endpoints) (some ()) := by
  induction endpoints with
  | nil => exact finds_pure ()
  | cons e rest ih =>
    unfold logAddresses
    cases s.find e with
    | found a => exact (finds_log _ _ _).bind fun _ _ => ih
    | missing => exact ih
    | invalid value => exact finds_pure ()

theorem finds_readSystem (path : String) :
    Finds fs (readSystem path) ((text? fs path).bind Design.System.parse?) := by
  refine (finds_readText path).bind fun text _ => ?_
  cases Design.System.parse? text with
  | some s => exact finds_pure s
  | none => exact finds_throw _

/-- In a world with these files the run fails and leaves them as they are if there is nothing to
be written; otherwise it comes with the same files to the point where it writes these contents. -/
def Publishes (fs : FileSystem) (x : Run Unit) (paths : List String)
    (contents? : Option (List Bytes)) : Prop :=
  ∀ w, w.files = fs →
    (contents? = none ∧ (∃ failure, (x w).1 = .error failure) ∧ (x w).2.files = fs) ∨
    ∃ contents between, contents? = some contents ∧ contents.length = paths.length ∧
      between.files = fs ∧ x w = writeAll (paths.zip contents) between

theorem publishes_bind {x : Run α} {f : α → Run Unit} {found? : Option α}
    {paths : List String} {contents? : α → Option (List Bytes)} (hx : Finds fs x found?)
    (hf : ∀ a, found? = some a → Publishes fs (f a) paths (contents? a)) :
    Publishes fs (x >>= f) paths (found?.bind contents?) := by
  intro w same
  obtain ⟨kept, result⟩ := hx w same
  rcases run : x w with ⟨e | a, between⟩
  · rw [run] at kept result
    obtain rfl : none = found? := result
    rw [Outcome.bind_of_error run]
    exact Or.inl ⟨rfl, ⟨e, rfl⟩, kept⟩
  · rw [run] at kept result
    obtain rfl : some a = found? := result
    rw [Outcome.bind_of_ok run]
    exact hf a rfl between kept

theorem publishes_after {x : Run Unit} {f : Unit → Run Unit} {paths : List String}
    {contents? : Option (List Bytes)} (hx : Finds fs x (some ()))
    (hf : Publishes fs (f ()) paths contents?) : Publishes fs (x >>= f) paths contents? :=
  publishes_bind hx fun _ _ => hf

theorem publishes_writeAll {paths : List String} {contents : List Bytes}
    (each : contents.length = paths.length) :
    Publishes fs (writeAll (paths.zip contents)) paths (some contents) :=
  fun w same => Or.inr ⟨contents, w, rfl, each, same, rfl⟩

theorem publishes_writeFile (path : String) (content : Bytes) :
    Publishes fs (Output.writeFile path content) [path] (some [content]) := by
  have single : writeAll ([path].zip [content]) = Output.writeFile path content := by
    show (Output.writeFile path content >>= fun _ => pure ()) = _
    exact bind_pure _
  exact single ▸ publishes_writeAll rfl

theorem publishes_writeFiles (path path' : String) (content content' : Bytes) :
    Publishes fs (do Output.writeFile path content; Output.writeFile path' content')
      [path, path'] (some [content, content']) := by
  have pair : writeAll ([path, path'].zip [content, content']) =
      (do Output.writeFile path content; Output.writeFile path' content') := by
    show (do Output.writeFile path content; Output.writeFile path' content'; pure ()) = _
    rw [bind_pure]
  exact pair ▸ publishes_writeAll rfl

/-! ## Jobs -/

theorem publishes_amigaFloppy {boot : CodeSource} (ready : boot.isReady = true)
    (o : ToolchainOptions) (kernel : String) (load entry : UInt32) (output : String) :
    Publishes fs (amigaFloppy o kernel load entry output boot) [output]
      (Job.contents? fs (.amigaFloppy kernel load entry output boot)) := by
  unfold amigaFloppy Job.contents?
  refine publishes_bind (finds_readFile kernel) fun kernel _ => ?_
  refine publishes_after (finds_printLine _) ?_
  refine publishes_bind (finds_bootCode ready _ _ _ _) fun block _ => ?_
  refine publishes_bind (finds_ofDisk _) fun image built => ?_
  -- an image is built of a block that has a checksum
  obtain ⟨sum, checked⟩ : ∃ sum, Disk.Amiga.checksum block = .ok sum := by
    obtain ⟨sum, checked, -⟩ := Outcome.bind_eq_ok_iff.1 (Outcome.toOption_eq_some_iff.1 built)
    exact ⟨sum, checked⟩
  rw [checked]
  show Publishes fs (pure sum >>= _) _ ((some sum).bind fun _ => some [image])
  refine publishes_bind (finds_pure sum) fun _ _ => ?_
  refine publishes_after (finds_log _ _ _) ?_
  exact publishes_writeFile output image

theorem publishes_writeDisk (path : String) (image : Disk.Image) :
    Publishes fs (Output.writeDisk path image false) [path]
      (image.flatten.toOption.bind fun content => some [content]) :=
  publishes_bind (finds_ofFault _) fun content _ => publishes_writeFile path content

theorem publishes_pcFloppy {boot : CodeSource} (ready : boot.isReady = true)
    (o : ToolchainOptions) (kernel : String) (segment : UInt32) (target : String) :
    Publishes fs (pcFloppy o kernel segment target false boot) [target]
      (Job.contents? fs (.pcFloppy kernel segment target false boot)) := by
  unfold pcFloppy Job.contents?
  refine publishes_bind (finds_readFile kernel) fun kernel _ => ?_
  refine publishes_bind (finds_ofDisk _) fun layout _ => ?_
  refine publishes_after (finds_printLine _) ?_
  refine publishes_bind (finds_bootCode ready _ _ _ _) fun bootSector _ => ?_
  refine publishes_bind (finds_ofDisk _) fun image _ => ?_
  exact publishes_writeDisk target image

theorem publishes_pcHardDisk {mbr boot : CodeSource} (mbr_ready : mbr.isReady = true)
    (ready : boot.isReady = true) (o : ToolchainOptions) (kernel : String) (segment : UInt32)
    (target : String) :
    Publishes fs (pcHardDisk o kernel segment target false mbr boot) [target]
      (Job.contents? fs (.pcHardDisk kernel segment target false mbr boot)) := by
  unfold pcHardDisk Job.contents?
  refine publishes_bind (finds_readFile kernel) fun kernel _ => ?_
  refine publishes_bind (finds_ofDisk _) fun layout _ => ?_
  refine publishes_after (finds_printLine _) ?_
  refine publishes_after (finds_printLine _) ?_
  refine publishes_bind (finds_bootCode mbr_ready _ _ _ _) fun record _ => ?_
  refine publishes_bind (finds_bootCode ready _ _ _ _) fun bootSector _ => ?_
  refine publishes_bind (finds_ofDisk _) fun image _ => ?_
  refine publishes_after (finds_log _ _ _) ?_
  exact publishes_writeDisk target image

theorem publishes_bootDisc (template description kernel headerOutput kernelOutput : String) :
    Publishes fs (bootDisc template description kernel headerOutput kernelOutput)
      [headerOutput, kernelOutput]
      (Job.contents? fs (.bootDisc template description kernel headerOutput kernelOutput)) := by
  unfold bootDisc Job.contents?
  refine publishes_bind (finds_readFile template) fun template _ => ?_
  refine publishes_bind (finds_readText description) fun text _ => ?_
  refine publishes_bind ((finds_ofExcept _ _).context _) fun header _ => ?_
  refine publishes_after (finds_logHeader header) ?_
  refine publishes_after (finds_printCrc header) ?_
  refine publishes_bind (finds_readFile kernel) fun kernel _ => ?_
  refine publishes_bind (finds_ofFault _) fun ordered _ => ?_
  exact publishes_writeFiles headerOutput kernelOutput header.data ordered

/-- Makes a deck of a binary and writes it. -/
def writeDeck (output : String) (binary : Bytes) (options : Deck.ObjectDeck.Options) :
    Run Unit := do
  let deck ← ofDeck (Deck.ObjectDeck.build binary options)
  Run.log .debug "sweetada_image::s360"
    ("Object deck: " ++ Numeral.decimal deck.records ++ " records")
  Run.printLine ("- Number of records written: " ++ Numeral.decimal deck.records)
  Output.writeFile output deck.bytes

theorem publishes_writeDeck (output : String) (binary : Bytes) (options : Deck.ObjectDeck.Options) :
    Publishes fs (writeDeck output binary options) [output]
      ((Deck.ObjectDeck.build binary options).toOption.bind fun deck => some [deck.bytes]) := by
  unfold writeDeck
  refine publishes_bind (finds_ofDeck _) fun deck _ => ?_
  refine publishes_after (finds_log _ _ _) ?_
  refine publishes_after (finds_printLine _) ?_
  exact publishes_writeFile output deck.bytes

theorem publishes_cardDeck (address : UInt32) (loader : Option String) (setsPsw : Bool)
    (input output : String) :
    Publishes fs (cardDeck address loader setsPsw input output) [output]
      (Job.contents? fs (.cardDeck address loader setsPsw input output)) := by
  unfold cardDeck Job.contents?
  refine publishes_bind (finds_readFile input) fun binary _ => ?_
  cases loader with
  | none =>
    exact publishes_bind (finds_pure none) fun loader _ =>
      publishes_writeDeck output binary { address, loader, setsPsw }
  | some path =>
    exact publishes_bind ((finds_readFile path).map some) fun loader _ =>
      publishes_writeDeck output binary { address, loader, setsPsw }

theorem publishes_memoryImage (input : String) (output : Option String) :
    Publishes fs (memoryImage input output) [output.getD (MemoryImage.defaultName input)]
      (Job.contents? fs (.memoryImage input output)) := by
  unfold memoryImage Job.contents?
  exact publishes_bind (finds_readFile input) fun data _ => publishes_writeFile _ _

theorem publishes_addressPackage (design package : String) (components : List String)
    (suffix directory : String) :
    Publishes fs (addressPackage design package components suffix directory)
      [Path.join directory (Design.AdaPackage.fileName package)]
      (Job.contents? fs (.addressPackage design package components suffix directory)) := by
  unfold addressPackage
  have regrouped :
      Job.contents? fs (.addressPackage design package components suffix directory) =
        ((text? fs design).bind Design.System.parse?).bind fun system =>
          (system.extract components suffix).toOption.bind fun addresses =>
            (Design.AdaPackage.render package addresses).toOption.bind fun content =>
              some [Bytes.ofText content] :=
    (Option.bind_assoc _ _ _).symm
  rw [regrouped]
  refine publishes_bind (finds_readSystem design) fun system _ => ?_
  refine publishes_after (finds_logAddresses system _) ?_
  refine publishes_bind ((finds_ofExcept _ _).context _) fun addresses _ => ?_
  refine publishes_bind (finds_ofFault _) fun content _ => ?_
  exact publishes_writeFile _ _

/-- A job with ready boot code finds what its files are to hold before it writes the first. -/
theorem publishes_perform (o : ToolchainOptions) {job : Job} (prebuilt : job.isPrebuilt = true) :
    Publishes fs (perform o job) job.outputs (job.contents? fs) := by
  cases job with
  | amigaFloppy kernel load entry output boot =>
    exact publishes_amigaFloppy prebuilt o kernel load entry output
  | pcFloppy kernel segment target device boot =>
    have ready := Bool.and_eq_true_iff.1 prebuilt
    obtain rfl : device = false := Bool.not_eq_true' device |>.mp ready.1
    exact publishes_pcFloppy ready.2 o kernel segment target
  | pcHardDisk kernel segment target device mbr boot =>
    have ready := Bool.and_eq_true_iff.1 prebuilt
    have mbr_ready := Bool.and_eq_true_iff.1 ready.1
    obtain rfl : device = false := Bool.not_eq_true' device |>.mp mbr_ready.1
    exact publishes_pcHardDisk mbr_ready.2 ready.2 o kernel segment target
  | bootDisc template description kernel headerOutput kernelOutput =>
    exact publishes_bootDisc template description kernel headerOutput kernelOutput
  | cardDeck address loader setsPsw input output =>
    exact publishes_cardDeck address loader setsPsw input output
  | memoryImage input output => exact publishes_memoryImage input output
  | addressPackage design package components suffix directory =>
    exact publishes_addressPackage design package components suffix directory

/-! ## Runs -/

/-- What the outputs of a run are to hold. -/
def Options.contents? (o : Options) (fs : FileSystem) : Option (List Bytes) :=
  o.job.validate.toOption.bind fun _ => o.job.contents? fs

theorem publishes_run {o : Options} (prebuilt : o.job.isPrebuilt = true) :
    Publishes fs (run o) o.job.outputs (o.contents? fs) :=
  publishes_bind (finds_ofExcept _ _) fun _ _ => publishes_perform o.toolchain prebuilt

end

end BareMetal.ImageTool
