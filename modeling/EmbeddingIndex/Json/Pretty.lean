import EmbeddingIndex.Number.Shortest
/-!
Values laid out as JSON over several lines.
-/

namespace EmbeddingIndex

inductive Layout
  | word (text : String)
  | text (value : String)
  | list (items : List Layout)
  | record (fields : List (String × Layout))

namespace Layout

def natural (n : Nat) : Layout := word (toString n)

def boolean (b : Bool) : Layout := word (if b then "true" else "false")

def null : Layout := word "null"

def optional {α : Type} (layout : α → Layout) : Option α → Layout
  | none => null
  | some a => layout a

def single (x : Binary32) : Layout := if x.isFinite then word x.text else null

def escapes : List (Char × Char) :=
  [('\x22', '\x22'), ('\\', '\\'), ('\x08', 'b'), ('\x0c', 'f'), ('\n', 'n'), ('\r', 'r'),
    ('\t', 't')]

def escape (c : Char) : List Char :=
  match escapes.lookup c with
  | some letter => ['\\', letter]
  | none =>
    if c.toNat < 0x20 then
      ['\\', 'u', '0', '0', Nat.digitChar (c.toNat / 16), Nat.digitChar (c.toNat % 16)]
    else [c]

def quoted (value : String) : String :=
  "\"" ++ String.ofList (value.toList.flatMap escape) ++ "\""

def margin (depth : Nat) : String := "\n" ++ String.ofList (List.replicate (2 * depth) ' ')

def bracketed (opening closing : String) (depth : Nat) (members : List String) : String :=
  if members.isEmpty then opening ++ closing
  else
    opening ++ margin (depth + 1) ++ String.intercalate ("," ++ margin (depth + 1)) members ++
      margin depth ++ closing

mutual

def render (depth : Nat) : Layout → String
  | word spelling => spelling
  | text value => quoted value
  | list items => bracketed "[" "]" depth (renderItems (depth + 1) items)
  | record fields => bracketed "\x7b" "\x7d" depth (renderFields (depth + 1) fields)

def renderItems (depth : Nat) : List Layout → List String
  | [] => []
  | item :: rest => render depth item :: renderItems depth rest

def renderFields (depth : Nat) : List (String × Layout) → List String
  | [] => []
  | (name, value) :: rest =>
    (quoted name ++ ": " ++ render depth value) :: renderFields depth rest

end

end Layout

end EmbeddingIndex
