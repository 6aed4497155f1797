import EmbeddingIndex.Program
/-!
The executable. It reads the part of the disk that a command may look at into a file tree, runs the
command on that, and carries the changes over to the disk.
-/

namespace EmbeddingIndex.Disk

def pathOf (location : Location) : String := Path.ofParts true location

/-- What stands at a location of the disk. Only the file that is asked for has its bytes read. -/
def nodeAt? (location : Location) (withBytes : Bool) : IO (Option FileNode) := do
  let path := System.mkFilePath [pathOf location]
  try
    let metadata ← path.metadata
    match metadata.type with
    | .dir => return some .directory
    | _ =>
      if withBytes then return some (.file (← IO.FS.readBinFile path).data.toList)
      else return some (.file [])
  catch _ => return none

def survey (files : FileTree) (location : Location) : IO FileTree := do
  let mut files := files
  for depth in List.range location.length do
    let part := location.take (depth + 1)
    if let some node ← nodeAt? part (depth + 1 = location.length) then
      files := files.place part node
  return files

def textualLocation (base : Location) (path : String) : Location :=
  (Path.parts path).foldl (fun location part =>
    if part = ".." then location.dropLast else location ++ [part])
    (if Path.isAbsolute path then [] else base)

def surveyAll (files : FileTree) (paths : List String) : IO FileTree :=
  paths.foldlM (fun files path => survey files (textualLocation files.base path)) files

/-- Carries over what changed. A file comes into its place by a rename. -/
def carryOver (before after : FileTree) : IO Unit := do
  for (location, node) in after.nodes do
    unless before.nodeAt location = some node do
      let path := pathOf location
      match node with
      | .directory => IO.FS.createDir path
      | .file bytes =>
        IO.FS.writeBinFile (path ++ ".new") ⟨bytes.toArray⟩
        IO.FS.rename (path ++ ".new") path

def surroundings : IO Environment := do
  let settingsFile ← IO.getEnv "BIX_CONFIG"
  return ⟨← IO.getEnv "HOME", none, ← IO.getEnv "XDG_CONFIG_HOME", ← IO.getEnv "XDG_DATA_HOME",
    settingsFile.filter (· ≠ "")⟩

end EmbeddingIndex.Disk

open EmbeddingIndex Disk

def main (arguments : List String) : IO UInt32 := do
  let environment ← surroundings
  let base := Path.parts (← IO.currentDir).toString
  let files ← survey ⟨base, []⟩ base
  let files ← surveyAll files (Program.settingsPaths environment arguments)
  let files ← surveyAll files (Program.dataPaths environment arguments files)
  let (report, after) := Program.run environment arguments files
  carryOver files after
  (← IO.getStdout).putStr report.out
  (← IO.getStderr).putStr report.err
  return UInt32.ofNat report.exit
