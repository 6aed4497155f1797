import EmbeddingIndex.Settings
import EmbeddingIndex.Yaml.Decoding
import EmbeddingIndex.Yaml.Text
import EmbeddingIndex.Files.Tree
/-!
Settings as a YAML document: a mapping with a nested one for the graph. Every field may be absent,
and other fields are of no account.
-/

namespace EmbeddingIndex

open Yaml (Document)

def Tuning.ofNode? (d : Document) (node : Yaml.Node) : Option Tuning := do
  let fields ← d.fields? node
  let natural := fun name absent => Document.field? fields name absent d.natural?
  let neighbors ← natural "m" standard.neighbors
  let searchBreadth ← natural "ef_search" standard.searchBreadth
  let levelFactor ← Document.field? fields "ml" standard.levelFactor d.real?
  let buildBreadth ← natural "ef_construction" standard.buildBreadth
  let capacity ← natural "max_elements" standard.capacity
  return ⟨neighbors, searchBreadth, levelFactor, buildBreadth, capacity⟩

namespace Settings

def ofDocument? (d : Document) : Option Settings := do
  let fields ← d.fields? d.content
  let threshold ← Document.field? fields "threshold" 0 d.natural?
  let dir ← Document.field? fields "dir" none d.optionalText?
  let preference ← Document.field? fields "backend" .auto fun node =>
    (d.choice? node).bind Preference.named
  let tuning ← Document.field? fields "hnsw" .standard (Tuning.ofNode? d)
  return ⟨threshold, dir, preference, tuning⟩

def parse? (text : String) : Option Settings :=
  ((Document.parse? text).bind ofDocument?).map effective

def load (files : FileTree) (path : String) : Except Fault Settings :=
  match files.read path with
  | .error fault => .error (.io (.file fault))
  | .ok bytes =>
    match text? bytes with
    | none => .error (.io .notUtf8)
    | some text =>
      match parse? text with
      | none => .error (.settings "malformed document")
      | some settings => .ok settings

def line (indent name value : String) : String := indent ++ name ++ ": " ++ value ++ "\n"

def render (s : Settings) : String :=
  line "" "threshold" (toString s.threshold) ++
    (match s.dir with
      | some dir => Yaml.Text.entry "dir" dir
      | none => "") ++
    line "" "backend" s.preference.name ++
    "hnsw:\n" ++
    line "  " "m" (toString s.tuning.neighbors) ++
    line "  " "ef_search" (toString s.tuning.searchBreadth) ++
    line "  " "ml" (Yaml.Text.real s.tuning.levelFactor) ++
    line "  " "ef_construction" (toString s.tuning.buildBreadth) ++
    line "  " "max_elements" (toString s.tuning.capacity)

end Settings

end EmbeddingIndex
