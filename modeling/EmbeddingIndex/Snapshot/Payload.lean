import EmbeddingIndex.Snapshot.Varint
import EmbeddingIndex.Entries
import EmbeddingIndex.Memory
/-!
A snapshot's content as bytes: version, optional width, and the entries one after another, every
list with its length in front.
-/

namespace EmbeddingIndex

structure Snapshot where
  version : UInt32
  width : Option Nat
  entries : Entries
  deriving DecidableEq, Repr

namespace Snapshot

def currentVersion : UInt32 := 1

def ofEntries (width : Option Nat) (entries : Entries) : Snapshot := ⟨currentVersion, width, entries⟩

end Snapshot

namespace Payload

def encodeComponent (x : Binary32) : Bytes := LittleEndian.encode 4 x.bits.toNat

def encodeWidth : Option Nat → Bytes
  | none => [0]
  | some width => 1 :: Varint.encode width

def encodeText (text : String) : Bytes := Varint.encode (utf8 text).length ++ utf8 text

def encodeVector (vector : Embedding) : Bytes :=
  Varint.encode vector.length ++ vector.flatMap encodeComponent

def encodeEntry (entry : Entry) : Bytes := encodeText entry.id ++ encodeVector entry.vector

def encode (s : Snapshot) : Bytes :=
  Varint.encode s.version.toNat ++ encodeWidth s.width ++
    Varint.encode s.entries.length ++ s.entries.flatMap encodeEntry

/-- Takes a value off the front of the bytes and hands back the rest, or stops. -/
abbrev Intake (α : Type) := Bytes → Except Halt (α × Bytes)

def undecodable : Halt := .fault (.snapshot .undecodable)

def expect {α : Type} (read : Reader α) : Intake α := fun bytes =>
  match read bytes with
  | none => .error undecodable
  | some found => .ok found

def readMany {α : Type} (read : Intake α) : Nat → Intake (List α)
  | 0, bytes => .ok ([], bytes)
  | count + 1, bytes =>
    match read bytes with
    | .error halt => .error halt
    | .ok (value, rest) =>
      match readMany read count rest with
      | .error halt => .error halt
      | .ok (values, rest) => .ok (value :: values, rest)

def readComponent : Intake Binary32 := fun bytes =>
  match expect (LittleEndian.decode 4) bytes with
  | .error halt => .error halt
  | .ok (bits, rest) => .ok (⟨UInt32.ofNat bits⟩, rest)

def readWidth : Intake (Option Nat)
  | 0 :: rest => .ok (none, rest)
  | 1 :: rest =>
    match expect (Varint.decode 8) rest with
    | .error halt => .error halt
    | .ok (width, rest) => .ok (some width, rest)
  | _ => .error undecodable

/-- Room for a text is made before its bytes are looked for, and a length beyond what memory holds
is a crash. -/
def readText : Intake String := fun bytes =>
  match expect (Varint.decode 8) bytes with
  | .error halt => .error halt
  | .ok (count, rest) =>
    if !Memory.holds count 1 then .error .crash
    else if rest.length < count then .error undecodable
    else
      match text? (rest.take count) with
      | none => .error undecodable
      | some text => .ok (text, rest.drop count)

def readVector : Intake Embedding := fun bytes =>
  match expect (Varint.decode 8) bytes with
  | .error halt => .error halt
  | .ok (count, rest) => readMany readComponent count rest

def readEntry : Intake Entry := fun bytes =>
  match readText bytes with
  | .error halt => .error halt
  | .ok (id, rest) =>
    match readVector rest with
    | .error halt => .error halt
    | .ok (vector, rest) => .ok (⟨id, vector⟩, rest)

def read : Intake Snapshot := fun bytes =>
  match expect (Varint.decode 4) bytes with
  | .error halt => .error halt
  | .ok (version, rest) =>
    match readWidth rest with
    | .error halt => .error halt
    | .ok (width, rest) =>
      match expect (Varint.decode 8) rest with
      | .error halt => .error halt
      | .ok (count, rest) =>
        match readMany readEntry count rest with
        | .error halt => .error halt
        | .ok (entries, rest) => .ok (⟨UInt32.ofNat version, width, entries⟩, rest)

end Payload

end EmbeddingIndex
