import BareMetal.Proofs.Disk.Overlay
import BareMetal.Proofs.ImageTool.Writing

/-!
# Writing disk images

Written over a device that is large enough, an image replaces what its extents cover and leaves the
rest of the device, and every other file, as it is.  Written as a file, it leaves what it would make
of a device of its size with nothing but zeros on it, so the two agree wherever an extent lies
(`writeDisk_as_file_or_device`).
-/

namespace BareMetal.ImageTool

open Host Run

/-- The path leads to a file of this content at this place. -/
structure LeadsToFile (fs : FileSystem) (path : String) (l : Location) (content : Bytes)
    (executable : Bool) : Prop where
  leads : fs.locate path = .ok l
  node : fs.node? l = some (.file content executable)
  no_slash : path.endsWith "/" = false

/-- The step succeeds, and of all files changes that of this path, which has this content then. -/
def Leaves (x : Run Unit) (w : World) (path : String) (content : Bytes) : Prop :=
  ∃ after, x w = (.ok (), after) ∧ Published w.files after.files [(path, content)]

variable {w : World} {path : String} {l : Location}

/-- A complete image becomes a file. -/
theorem leaves_writeFile (place : LeadsToPlace w.files path l) {image : Disk.Image} {disk : Bytes}
    (flat : image.flatten = .ok disk) :
    Leaves (Output.writeDisk path image false) w path disk := by
  obtain ⟨executable, after, written, put⟩ := output_writeFile_of_place place disk
  have flattened : (ofFault image.flatten : Run Bytes) w = (.ok disk, w) := by
    rw [flat]
    rfl
  refine ⟨after, (Outcome.bind_of_ok flattened).trans written, ?_⟩
  rw [put]
  exact published_put place.leads place.takes place.no_slash disk executable

/-- An image becomes part of a device that is there. -/
theorem leaves_writeDevice {old : Bytes} {executable : Bool}
    (there : LeadsToFile w.files path l old executable) (image : Disk.Image) :
    Leaves (Output.writeDisk path image true) w path (image.writeOver old) := by
  have takes := FileSystem.takesFile_of_node? there.node
  have opened := FileSystem.openPath_of_node? .writing there.leads there.node there.no_slash
  have opening : Run.context ("Failed to open device " ++ path)
      (ofSystem (w.files.openPath .writing path)) w = (.ok (.file l old executable), w) := by
    rw [opened]
    rfl
  let written : World :=
    { w with files := w.files.put l (.file (image.writeOver old) executable) }
  obtain ⟨after, told, kept⟩ := ((finds_forM (fun e => finds_log .debug _ _) image.extents).bind
    fun _ _ => finds_printLine ("- Wrote " ++ path ++ " in place")).apply (w := written) rfl
  refine ⟨after, (Outcome.bind_of_ok opening).trans told, ?_⟩
  rw [kept]
  exact published_put there.leads takes there.no_slash _ executable

/-- The bytes of overlapping extents are those of the later ones, and what is under them does not
matter. -/
theorem writeDisk_as_file_or_device {image : Disk.Image}
    (stop_le : ∀ e ∈ image.extents, e.stop ≤ image.size) :
    ∃ disk, image.flatten = .ok disk ∧
      Disk.Image.Overlays image.extents (Bytes.zeros image.size) disk ∧
      (∀ w path l, LeadsToPlace w.files path l →
        Leaves (Output.writeDisk path image false) w path disk) ∧
      ∀ w path l old executable, LeadsToFile w.files path l old executable →
        image.size ≤ old.size →
        ∃ new, Leaves (Output.writeDisk path image true) w path new ∧
          Disk.Image.Overlays image.extents old new ∧
          (old = Bytes.zeros image.size → new = disk) ∧
          ∀ i, (∃ e ∈ image.extents, e.Covers i) → new[i]? = disk[i]? := by
  have flat := Disk.Image.flatten_eq_writeOver stop_le
  have over_zeros := Disk.Image.overlays_writeOver_zeros stop_le
  refine ⟨_, flat, over_zeros, fun w path l place => leaves_writeFile place flat, ?_⟩
  intro w path l old executable there holds
  have over_old := Disk.Image.overlays_writeOver stop_le holds
  refine ⟨_, leaves_writeDevice there image, over_old, ?_, fun i covered => ?_⟩
  · rintro rfl
    rfl
  · rw [over_old.byte, over_zeros.byte, Disk.Image.overlaidByte_of_covers covered]

/-- Two extents with a byte in common, written over four bytes and as a file of three. -/
theorem writeDisk_overlapping :
    let image : Disk.Image := ⟨3, [⟨0, #[0x01, 0x02]⟩, ⟨1, #[0x03]⟩]⟩
    let d : Location := workingDirectory ++ ["d"]
    let w : World := { files :=
      { nodes := systemNodes ++ [(d, .file #[0x09, 0x09, 0x09, 0x09] false)] } }
    Leaves (Output.writeDisk "d" image true) w "d" #[0x01, 0x03, 0x09, 0x09] ∧
      Leaves (Output.writeDisk "e" image false) w "e" #[0x01, 0x03, 0x00] := by
  intro image d w
  have stop_le : ∀ e ∈ image.extents, e.stop ≤ image.size := by decide
  obtain ⟨disk, flat, -, as_file, as_device⟩ := writeDisk_as_file_or_device stop_le
  constructor
  · have there : LeadsToFile w.files "d" d #[0x09, 0x09, 0x09, 0x09] false := by
      constructor <;> decide +kernel
    obtain ⟨new, left, overlays, -⟩ := as_device w "d" d _ false there (by decide)
    obtain rfl := overlays.eq (Disk.Image.overlays_writeOver stop_le (by decide))
    exact left
  · have place : LeadsToPlace w.files "e" (workingDirectory ++ ["e"]) := by
      constructor <;> decide +kernel
    have whole : image.flatten = .ok #[0x01, 0x03, 0x00] := by decide
    obtain rfl := Except.ok.inj (flat.symm.trans whole)
    exact as_file w "e" _ place

end BareMetal.ImageTool
