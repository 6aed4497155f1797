import EmbeddingIndex.Json.Reader
import EmbeddingIndex.Text.Blank
import EmbeddingIndex.Text.Bytes
import EmbeddingIndex.Entries
/-!
Records to be indexed, one JSON text to a line, and query vectors.
-/

namespace EmbeddingIndex

namespace Json

def component? : Json → Option Binary32
  | number n => n.toBinary32?
  | _ => none

def embedding? : Json → Option Embedding
  | array items => items.mapM component?
  | _ => none

def entry? (id vector : Json) : Option Entry :=
  match id with
  | string (some id) => vector.embedding?.map fun vector => ⟨id, vector⟩
  | _ => none

def member? (name : String) (members : List (Option String × Json)) : Option Json :=
  match members.filter (·.1 = some name) with
  | [(_, value)] => some value
  | _ => none

/-- An object with an id and a vector, each once, and any other members; or the two in an array. -/
def record? : Json → Option Entry
  | object members =>
    if members.all (·.1.isSome) then
      match member? "id" members, member? "vector" members with
      | some id, some vector => entry? id vector
      | _, _ => none
    else none
  | array [id, vector] => entry? id vector
  | _ => none

end Json

def parseRecord (line : String) : Except String Entry :=
  match (Json.parse? line).bind Json.record? with
  | some record => .ok record
  | none => .error "not a record"

def parseVector (text : String) : Option Embedding := (Json.parse? text).bind Json.embedding?

inductive RecordFault (ε : Type)
  | line (number : Nat) {e : ε}
  | notUtf8
  deriving DecidableEq, Repr

namespace Lines

def newline : UInt8 := 10

def dropReturn (line : Bytes) : Bytes :=
  if line.getLast? = some 13 then line.dropLast else line

/-- Lines end with a newline, with at most one carriage return before it. What follows the last
newline is a line too, unless it is empty, and keeps its carriage return. -/
def split : Bytes → Bytes → List Bytes
  | [], [] => []
  | line, [] => [line.reverse]
  | line, byte :: rest =>
    if byte = newline then dropReturn line.reverse :: split [] rest else split (byte :: line) rest

def ofBytes (bytes : Bytes) : List Bytes := split [] bytes

end Lines

/-- Reads lines from a given number on; blank lines count but yield nothing, and the first fault
ends the reading. -/
def readLines {ε : Type} (parse : String → Except ε Entry) :
    Nat → List Bytes → Except (RecordFault ε) (List Entry)
  | _, [] => .ok []
  | number, line :: rest =>
    match text? line with
    | none => .error .notUtf8
    | some text =>
      if text.toList.all isBlank then readLines parse (number + 1) rest
      else
        match parse text with
        | .error e => .error (.line number (e := e))
        | .ok record => (readLines parse (number + 1) rest).map (record :: ·)

def readRecords {ε : Type} (parse : String → Except ε Entry) (bytes : Bytes) :
    Except (RecordFault ε) (List Entry) :=
  readLines parse 1 (Lines.ofBytes bytes)

end EmbeddingIndex
