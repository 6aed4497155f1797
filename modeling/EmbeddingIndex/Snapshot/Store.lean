import EmbeddingIndex.Snapshot.Frame
import EmbeddingIndex.Files.Tree
/-!
The snapshot file of a directory. It is written beside its place and then moved there, so a failure
leaves the directory as it was.
-/

namespace EmbeddingIndex.SnapshotFile

def name : String := "behaviors.hnsw"

def path (dir : String) : String := Path.join dir name

def existsIn (files : FileTree) (dir : String) : Bool := files.isFile (path dir)

def fileFault (fault : FileFault) : Fault := .io (.file fault)

def createTemporary (files : FileTree) (dir : String) : Except FileFault (Location × FileTree) :=
  match files.locate dir with
  | .error fault => .error fault
  | .ok location =>
    match files.nodeAt location with
    | none => .error .notFound
    | some (.file _) => .error .notADirectory
    | some .directory =>
      let temporary := location ++ [files.freeName]
      .ok (temporary, files.place temporary (.file []))

/-- The points of a write at which the system may refuse it, whatever the tree is like. -/
inductive Stage
  | creation
  | content
  | move
  deriving DecidableEq, Repr

abbrev Refusals := Stage → Option IoFault

def Refusals.none : Refusals := fun _ => .none

/-- Writes to a temporary file and moves it to its place; the temporary file goes away in either
case. -/
def writeUnder (refusals : Refusals) (files : FileTree) (dir : String) (s : Snapshot) :
    Except Fault Unit × FileTree :=
  match refusals .creation with
  | some cause => (.error (.io cause), files)
  | none =>
    match createTemporary files dir with
    | .error fault => (.error (fileFault fault), files)
    | .ok (temporary, files) =>
      match refusals .content with
      | some cause => (.error (.io cause), files.drop temporary)
      | none =>
        let files := files.place temporary (.file (s.encode .blake3))
        match refusals .move with
        | some cause => (.error (.io cause), files.drop temporary)
        | none =>
          match files.locate (path dir) with
          | .error fault => (.error (fileFault fault), files.drop temporary)
          | .ok target =>
            match files.rename temporary target with
            | .error fault => (.error (fileFault fault), files.drop temporary)
            | .ok files => (.ok (), files)

def write (files : FileTree) (dir : String) (s : Snapshot) : Except Fault Unit × FileTree :=
  writeUnder .none files dir s

def read (files : FileTree) (dir : String) : Except Halt Snapshot :=
  match files.read (path dir) with
  | .error fault => .error (.fault (fileFault fault))
  | .ok bytes => Snapshot.decode .blake3 bytes

end EmbeddingIndex.SnapshotFile
