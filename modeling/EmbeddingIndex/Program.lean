import EmbeddingIndex.CommandLine
import EmbeddingIndex.Directories
import EmbeddingIndex.Json.Pretty
import EmbeddingIndex.Record
import EmbeddingIndex.Runtime.Plain
import EmbeddingIndex.Settings.Document
import EmbeddingIndex.Tiered
/-!
What the commands do to a file tree and what they print.
-/

namespace EmbeddingIndex

variable [Runtime]

structure Report where
  exit : Nat
  out : String
  err : String
  deriving DecidableEq, Repr

inductive Failure
  | fault (cause : Fault)
  | io (cause : IoFault)
  | notice (text : String)
  | query
  | crash
  deriving DecidableEq, Repr

namespace Failure

def outline : Failure → String
  | fault cause => cause.outline
  | io cause => cause.outline
  | notice text => Quoted.encode text
  | query => "Error(\"not a vector\", line: 1, column: 0)"
  | crash => "crashed"

def report (f : Failure) : Report :=
  match f with
  | crash => ⟨101, "", "the command crashed\n"⟩
  | _ => ⟨1, "", "Error: " ++ f.outline ++ "\n"⟩

end Failure

def Halt.failure : Halt → Failure
  | .fault cause => .fault cause
  | .crash => .crash

/-- A command's result, and the file tree it leaves whatever the result is. -/
abbrev Run (α : Type) := FileTree → Except Failure α × FileTree

namespace Run

def pure {α : Type} (a : α) : Run α := fun files => (.ok a, files)

def bind {α β : Type} (x : Run α) (f : α → Run β) : Run β := fun files =>
  match x files with
  | (.ok a, files) => f a files
  | (.error e, files) => (.error e, files)

instance : Monad Run where
  pure := pure
  bind := bind

def fail {α : Type} (f : Failure) : Run α := fun files => (.error f, files)

def lift {α : Type} : Except Failure α → Run α := fun result files => (result, files)

def look {α : Type} (f : FileTree → α) : Run α := fun files => (.ok (f files), files)

def doing {α : Type} (f : FileTree → Except Halt α × FileTree) : Run α := fun files =>
  let (result, files) := f files
  (result.mapError Halt.failure, files)

end Run

namespace Program

def fileFailure (fault : FileFault) : Failure := .io (.file fault)

def settingsName : String := "config.yaml"

def settingsPath (e : Environment) (given : Option String) : Except Failure String :=
  match given.or e.settingsFile with
  | some path => .ok path
  | none =>
    match e.configDir with
    | some dir => .ok (Path.join dir settingsName)
    | none => .error (.notice "Unable to determine config directory")

def standardDir (e : Environment) : Except Failure String :=
  match e.indexDir with
  | some dir => .ok dir
  | none => .error (.notice "Unable to determine data directory")

def loadOrStandard (path : String) : Run Settings := fun files =>
  if files.isFile path then ((Settings.load files path).mapError .fault, files)
  else (.ok .standard, files)

/-- The option comes first, then the settings, then the standard place. -/
def chooseDir (e : Environment) (given : Option String) (settings : Settings) :
    Except Failure String :=
  match given, settings.dir with
  | some dir, _ => .ok dir
  | none, some dir => .ok dir
  | none, none => standardDir e

def readRecordFile (path : String) (files : FileTree) : Except Failure (List Entry) :=
  match files.read path with
  | .error fault => .error (fileFailure fault)
  | .ok bytes =>
    match readRecords parseRecord bytes with
    | .ok records => .ok records
    | .error (.line n (e := e)) => .error (.notice ("line " ++ toString n ++ ": " ++ e))
    | .error .notUtf8 => .error (.io .notUtf8)

def addRecords : Tiered → List Entry → Run Tiered
  | t, [] => Run.pure t
  | t, record :: rest => fun files =>
    let step := t.add record.id record.vector files
    match step.answer with
    | .ok _ => addRecords step.index rest step.files
    | .error halt => (.error halt.failure, step.files)

def openIndex (settings : Settings) (records : Option String) : Run Tiered := do
  let index ← Run.doing (Tiered.create settings)
  match records with
  | none => return index
  | some path =>
    let entries ← Run.lift (← Run.look (readRecordFile path))
    addRecords index entries

def printed (l : Layout) : String := l.render 0 ++ "\n"

def writeStandard (e : Environment) (path : String) : Run String := do
  match Path.parent? path with
  | none => Run.pure ()
  | some "" => Run.pure ()
  | some parent => fun files =>
    let (result, files) := files.makeDirectories parent
    (result.mapError fileFailure, files)
  let dir ← Run.lift (standardDir e)
  let text := { Settings.standard with dir := some dir }.render
  fun files =>
    match files.write path (utf8 text) with
    | .ok files => (.ok (path ++ "\n"), files)
    | .error fault => (.error (fileFailure fault), files)

def indexSummary (index : Tiered) (files : FileTree) : Layout :=
  .record [("count", .natural index.size), ("dimension", .optional .natural index.width),
    ("mode", .text index.mode.name),
    ("saved", .boolean (index.settings.dir.any (SnapshotFile.existsIn files)))]

def indexRecords (settings : Settings) (records : String) : Run String := do
  let index ← openIndex settings (some records)
  Run.doing fun files => let step := index.save files; (step.answer.mapError .fault, step.files)
  Run.look fun files => printed (indexSummary index files)

def hitLayout (h : Hit) : Layout := .record [("id", .text h.id), ("score", .single h.score)]

def search (settings : Settings) (records : Option String) (query : Embedding) (count : Nat) :
    Run String := do
  let index ← openIndex settings records
  let hits ← Run.doing fun files =>
    let step := index.search query count files
    (step.answer, step.files)
  return printed (.list (hits.map hitLayout))

def snapshotSummary (path : String) (size : Nat) (s : Snapshot) : Layout :=
  .record [("bytes", .natural size), ("count", .natural s.entries.length),
    ("dimension", .optional .natural s.width), ("path", .text path),
    ("version", .natural s.version.toNat)]

def inspect (dir : String) : Run String := fun files =>
  let path := SnapshotFile.path dir
  if files.isFile path then
    match SnapshotFile.read files dir, files.read path with
    | .ok s, .ok bytes => (.ok (printed (snapshotSummary path bytes.length s)), files)
    | .error halt, _ => (.error halt.failure, files)
    | _, .error fault => (.error (fileFailure fault), files)
  else (.error (.notice ("no snapshot at " ++ path)), files)

def execute (e : Environment) (invocation : Invocation) : Run String := do
  let path ← Run.lift (settingsPath e invocation.config)
  match invocation.command with
  | .init => writeStandard e path
  | .index records dir threshold =>
    let settings ← loadOrStandard path
    let dir ← Run.lift (chooseDir e dir settings)
    let threshold := threshold.getD settings.threshold
    indexRecords { settings with dir := some dir, threshold } records
  | .search records query count dir =>
    let settings ← loadOrStandard path
    let settings ←
      if dir.isSome || records.isNone then
        (Run.lift (chooseDir e dir settings)).bind fun dir =>
          Run.pure { settings with dir := some dir }
      else Run.pure settings
    match parseVector query with
    | none => Run.fail .query
    | some query => search settings records query count
  | .inspect dir =>
    let settings ← loadOrStandard path
    let dir ← Run.lift (chooseDir e dir settings)
    inspect dir

def settingsPaths (e : Environment) (arguments : List String) : List String :=
  match CommandLine.parse arguments with
  | .ok invocation => (settingsPath e invocation.config).toOption.toList
  | .error _ => []

def snapshotPaths (e : Environment) (dir : Option String) (settings : Settings) : List String :=
  match chooseDir e dir settings with
  | .ok dir => [dir, SnapshotFile.path dir]
  | .error _ => []

def dataPaths (e : Environment) (arguments : List String) (files : FileTree) : List String :=
  match CommandLine.parse arguments with
  | .error _ => []
  | .ok invocation =>
    let settings := match settingsPath e invocation.config with
      | .ok path => ((loadOrStandard path files).1.toOption).getD .standard
      | .error _ => .standard
    match invocation.command with
    | .init => []
    | .index records dir _ => records :: snapshotPaths e dir settings
    | .search records _ _ dir => records.toList ++ snapshotPaths e dir settings
    | .inspect dir => snapshotPaths e dir settings

def versionText : String := "behavior_index 0.1.0\n"

def usageReport (fault : UsageFault) : Report :=
  match fault with
  | .version => ⟨0, versionText, ""⟩
  | .help => ⟨0, "Usage: bix [OPTIONS] <COMMAND>\n", ""⟩
  | _ => ⟨fault.exitCode, "", "error: " ++ fault.name ++ "\n"⟩

def run (e : Environment) (arguments : List String) (files : FileTree) : Report × FileTree :=
  match CommandLine.parse arguments with
  | .error fault => (usageReport fault, files)
  | .ok invocation =>
    match execute e invocation files with
    | (.ok out, files) => (⟨0, out, ""⟩, files)
    | (.error failure, files) => (failure.report, files)

end Program

end EmbeddingIndex
