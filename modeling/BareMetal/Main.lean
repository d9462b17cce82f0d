import BareMetal.DownloadTool.Run
import BareMetal.ImageTool.Run

/-!
# The tools as a program

The first argument chooses the tool, the others are its own.  The files below the working directory
are read, the tool runs on them, and the files that it has changed are written back.
-/

namespace BareMetal

open Host

/-- The files and directories below the working directory. -/
def readFiles : IO FileSystem := do
  let here ← IO.currentDir
  let depth := here.components.length
  let mut files : FileSystem := {}
  for path in ← here.walkDir do
    let node ← if ← path.isDir then pure Node.directory
      else do pure (Node.file (← IO.FS.readBinFile path).data false)
    files := files.putBelow (path.components.drop depth) node
  return files

/-- Writes the files that differ from what was there before. -/
def writeFiles (before after : FileSystem) : IO Unit := do
  for (location, node) in after.below do
    if let .file content _ := node then
      if before.below.lookup location ≠ some node then
        IO.FS.writeBinFile (Text.joinWith "/" location) ⟨content⟩

/-- The variables of the environment that the tools look at. -/
def variableNames : List String :=
  ["PATH", "TOOLCHAIN_CC", "TOOLCHAIN_LD", "TOOLCHAIN_OBJDUMP", "OPENOCD_PREFIX",
   World.logVariable]

def readEnvironment : IO (List (String × String)) :=
  variableNames.filterMapM fun name => do
    return (← IO.getEnv name).map fun value => (name, value)

/-- The tool of a name. -/
def toolOf? : String → Option (List String → World → Exit)
  | "gen" => some ImageTool.execute
  | "flash" => some DownloadTool.execute
  | _ => none

end BareMetal

open BareMetal

def main (arguments : List String) : IO UInt32 := do
  match arguments with
  | [] => return UInt32.ofNat Host.Exit.usageStatus
  | name :: arguments =>
    match toolOf? name with
    | none => return UInt32.ofNat Host.Exit.usageStatus
    | some execute =>
      let files ← readFiles
      let exit := execute arguments { files, environment := ← readEnvironment }
      writeFiles files exit.world.files
      (← IO.getStdout).write ⟨exit.world.output⟩
      (← IO.getStderr).write ⟨exit.world.errors⟩
      return UInt32.ofNat exit.status
