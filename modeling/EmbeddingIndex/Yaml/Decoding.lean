import EmbeddingIndex.Yaml.Node
import EmbeddingIndex.Yaml.Word
/-!
Values that YAML nodes stand for where a value of a certain type is wanted.
-/

namespace EmbeddingIndex.Yaml

def coreTag (name : String) : Bytes := Document.coreLead ++ utf8 name

def localName? (tag : Bytes) : Option String :=
  match tag with
  | first :: rest =>
    if first = 0x21 then text? (if rest.isEmpty then tag else rest) else none
  | [] => none

namespace Document

/-- Text of a scalar that can be a number: a plain one, or a literal one tagged as such. -/
def numberText? (d : Document) (tagName : String) (node : Node) : Option String :=
  match d.resolve node with
  | some (.scalar .plain _ text) => some text
  | some (.scalar .literal (some tag) text) => if tag = coreTag tagName then some text else none
  | _ => none

def natural? (d : Document) (node : Node) : Option Nat :=
  (d.numberText? "int" node).bind fun text => NumberText.natural? text.toList

def real? (d : Document) (node : Node) : Option Binary64 :=
  (d.numberText? "float" node).bind NumberText.real?

def text? (d : Document) (node : Node) : Option String :=
  match d.resolve node with
  | some (.scalar _ _ text) => some text
  | _ => none

/-- A text, or nothing where a plain scalar is blank or null. -/
def optionalText? (d : Document) (node : Node) : Option (Option String) :=
  match d.resolve node with
  | some (.scalar .plain none text) =>
    some (if text = "" || isNullWord text then none else some text)
  | some (.scalar .plain (some tag) text) =>
    if tag = coreTag "null" then (if isNullWord text then some none else none)
    else some (some text)
  | some (.scalar _ _ text) => some (some text)
  | _ => none

def choice? (d : Document) (node : Node) : Option String :=
  match d.resolve node with
  | some (.scalar style tag text) =>
    match tag.bind localName? with
    | some name => if style = .plain && (text = "" || isNullWord text) then some name else none
    | none => some text
  | _ => none

def fields? (d : Document) (node : Node) : Option (List (String × Node)) :=
  match d.resolve node with
  | some (.mapping _ pairs) =>
    pairs.mapM fun pair => (d.text? pair.1).map fun name => (name, pair.2)
  | some (.scalar .plain _ "") => some []
  | _ => none

def field? {α : Type} (fields : List (String × Node)) (name : String) (absent : α)
    (read? : Node → Option α) : Option α :=
  match fields.filter (·.1 = name) with
  | [] => some absent
  | [(_, value)] => read? value
  | _ => none

end Document

end EmbeddingIndex.Yaml
