import BareMetal.Disk.Image
import BareMetal.Host.Run

/-!
# Writing images

Images are complete before anything is written.  A disk image becomes a file of its full size, or
is written over a device that is there already.
-/

namespace BareMetal.ImageTool.Output

open Host

/-- Writes a file and tells of it. -/
def writeFile (path : String) (content : Bytes) : Run Unit := do
  Run.writeFile path content
  Run.printLine ("- Wrote " ++ path ++ " (" ++ Numeral.decimal content.size ++ " bytes)")

/-- Tells of an extent that has been written over a device. -/
def logExtent (e : Disk.Extent) : Run Unit :=
  Run.log .debug "sweetada_gen::output"
    ("Wrote " ++ Numeral.decimal e.data.size ++ " bytes at offset 0x" ++ Numeral.hex e.offset)

/-- Why nothing can be written at an offset of a device; none if it can be. -/
def refusal? (content : Bytes) : Device → Option OsError
  | .stream _ | .serial _ => some .illegalSeek
  | .full => if content.size = 0 then none else some .noSpace
  | .absent => some .noDevice
  | .null | .zero => none

/-- Writes an extent to a device that is no file. -/
def writeExtent (path : String) (d : Device) (e : Disk.Extent) : Run Unit := do
  match refusal? e.data d with
  | some refusal =>
    Run.context
      ("Failed to write " ++ Numeral.decimal e.data.size ++ " bytes at offset " ++
        Numeral.decimal e.offset ++ " of " ++ path)
      (Run.ofSystem (.error refusal))
  | none => logExtent e

/-- Writes a disk image over a device, which has to be there.  What is no file cannot be made
sure to hold it. -/
def writeDevice (path : String) (image : Disk.Image) : Run Unit := do
  let w ← get
  match ← Run.context ("Failed to open device " ++ path)
      (Run.ofSystem (w.files.openPath .writing path)) with
  | .file l old executable =>
    set (← Run.ofSystem (w.put (image.writeOver old) (.file l old executable)))
    image.extents.forM logExtent
  | .device d =>
    image.extents.forM (writeExtent path d)
    Run.context ("Failed to sync " ++ path) (Run.ofSystem (.error .invalid))
  Run.printLine ("- Wrote " ++ path ++ " in place")

/-- Writes a disk image. -/
def writeDisk (path : String) (image : Disk.Image) (device : Bool) : Run Unit := do
  if device then writeDevice path image
  else writeFile path (← Run.ofFault image.flatten)

end BareMetal.ImageTool.Output
