import FillScript.CommandLine

/-!
# The program

Reads the environment and the files below the working directory, runs, prints, and writes the files
that changed. Books are kept by other programs and are not decoded here.
-/

namespace FillScript.Main

/-- The variables that settings are made from. -/
def settingNames : List String :=
  ["SHEETFILL_DEFAULT_INPUT", "SHEETFILL_LOG", "RUST_LOG", "SHEETFILL_DRY_RUN"]

/-- The variables that are set. -/
def readEnvironment : IO Environment := do
  let values ← settingNames.mapM fun name => do
    return (← IO.getEnv name).map fun value => (name, value)
  return values.reduceOption

/-- The files and directories below a directory, which is at `loc`. -/
partial def readEntries (dir : String) (loc : Location) : IO (List (Location × Node)) := do
  let mut entries := []
  for entry in (← (← IO.FS.realPath dir).readDir) do
    let path := dir ++ "/" ++ entry.fileName
    let here := loc ++ [entry.fileName]
    if (← entry.path.isDir) then
      entries := entries ++ (here, .dir) :: (← readEntries path here)
    else
      let bytes ← IO.FS.readBinFile path
      entries := entries ++ [(here, .file (.ofBytes bytes))]
  return entries

/-- Removes a file. -/
def removeEntry (entry : Location × Node) : IO Unit :=
  match entry.2 with
  | .file _ => IO.FS.removeFile (String.intercalate "/" entry.1)
  | .dir => pure ()

/-- Writes a file. -/
def writeEntry (entry : Location × Node) : IO Unit :=
  let path := String.intercalate "/" entry.1
  match entry.2 with
  | .file (.text s) => IO.FS.writeFile path s
  | .file (.bytes bytes) => IO.FS.writeBinFile path bytes
  | _ => pure ()

end FillScript.Main

open FillScript in
/-- Runs the program. -/
def main (arguments : List String) : IO UInt32 := do
  let files : FileTree := ⟨← Main.readEntries "." []⟩
  let result := CommandLine.run arguments (← Main.readEnvironment) files
  result.output.forM fun line => IO.println line
  result.errors.forM fun line => IO.eprintln line
  (files.entries.filter fun entry => (result.files.node? entry.1).isNone).forM Main.removeEntry
  (result.files.entries.filter fun entry => !files.entries.contains entry).forM Main.writeEntry
  return result.code.toUInt32
