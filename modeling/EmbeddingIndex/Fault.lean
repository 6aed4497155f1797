import EmbeddingIndex.Text.Quoted
/-!
Why an operation failed, with the wording of each cause.
-/

namespace EmbeddingIndex

inductive FileFault
  | notFound
  | alreadyExists
  | notADirectory
  | isADirectory
  | invalidPath
  | nameTooLong
  deriving DecidableEq, Repr

namespace FileFault

def kind : FileFault → String
  | notFound => "NotFound"
  | alreadyExists => "AlreadyExists"
  | notADirectory => "NotADirectory"
  | isADirectory => "IsADirectory"
  | invalidPath => "InvalidInput"
  | nameTooLong => "InvalidFilename"

def code : FileFault → Nat
  | notFound => 2
  | alreadyExists => 17
  | notADirectory => 20
  | isADirectory => 21
  | invalidPath => 22
  | nameTooLong => 36

def text : FileFault → String
  | notFound => "No such file or directory"
  | alreadyExists => "File exists"
  | notADirectory => "Not a directory"
  | isADirectory => "Is a directory"
  | invalidPath => "Invalid argument"
  | nameTooLong => "File name too long"

end FileFault

inductive IoFault
  | file (fault : FileFault)
  | notUtf8
  | described (text : String)
  deriving DecidableEq, Repr

namespace IoFault

def kind : IoFault → String
  | file fault => fault.kind
  | notUtf8 => "InvalidData"
  | described _ => "Other"

def notUtf8Text : String := "stream did not contain valid UTF-8"

def message : IoFault → String
  | file fault => fault.text ++ " (os error " ++ toString fault.code ++ ")"
  | notUtf8 => notUtf8Text
  | described text => text

end IoFault

inductive GraphFault
  | full
  | described (text : String)
  deriving DecidableEq, Repr

def GraphFault.message : GraphFault → String
  | full => "graph capacity exhausted"
  | described text => text

inductive SnapshotFault
  | foreign
  | checksum
  | undecodable
  | unsupported (version : Nat)
  | described (text : String)
  deriving DecidableEq, Repr

def SnapshotFault.message : SnapshotFault → String
  | foreign => "not a behavior index snapshot"
  | checksum => "checksum mismatch"
  | undecodable => "decode failed"
  | unsupported version => "unsupported snapshot version " ++ toString version
  | described text => text

inductive Fault
  | construction (reason : String)
  | copy (id : String) (source : Fault)
  | dimensionMismatch (expected actual : Nat)
  | emptyVector (id : String)
  | nonFinite (id : String)
  | backend (op : String) (source : Fault)
  | graph (cause : GraphFault)
  | snapshot (cause : SnapshotFault)
  | io (cause : IoFault)
  | settings (text : String)
  | lockPoisoned (resource : String)
  | closed
  deriving DecidableEq, Repr

namespace Fault

def kind : Fault → String
  | construction _ => "Construction"
  | copy _ _ => "Copy"
  | dimensionMismatch _ _ => "DimensionMismatch"
  | emptyVector _ => "EmptyVector"
  | nonFinite _ => "NonFinite"
  | backend _ _ => "Backend"
  | graph _ => "Graph"
  | snapshot _ => "Snapshot"
  | io _ => "Io"
  | settings _ => "Config"
  | lockPoisoned _ => "LockPoisoned"
  | closed => "Closed"

def root : Fault → Fault
  | copy _ source => source.root
  | backend _ source => source.root
  | fault => fault

def depth : Fault → Nat
  | copy _ source => source.depth + 1
  | backend _ source => source.depth + 1
  | _ => 0

def isValidation (fault : Fault) : Bool :=
  match fault.root with
  | dimensionMismatch _ _ => true
  | emptyVector _ => true
  | nonFinite _ => true
  | _ => false

def message : Fault → String
  | construction reason => "failed to construct approximate index: " ++ reason
  | copy id source =>
    "failed to copy vector " ++ Quoted.encode id ++ " into approximate index: " ++ source.message
  | dimensionMismatch expected actual =>
    "dimension mismatch: expected " ++ toString expected ++ ", got " ++ toString actual
  | emptyVector id => "vector for " ++ Quoted.encode id ++ " is empty"
  | nonFinite id => "vector for " ++ Quoted.encode id ++ " has non-finite components"
  | backend op source => op ++ " failed: " ++ source.message
  | graph cause => "graph error: " ++ cause.message
  | snapshot cause => "snapshot error: " ++ cause.message
  | io cause => cause.message
  | settings text => "invalid configuration: " ++ text
  | lockPoisoned resource => "lock poisoned: " ++ resource
  | closed => "index is closed"

end Fault

/-- Why an operation stopped: a fault, which it reports, or a crash, which it does not. -/
inductive Halt
  | fault (cause : Fault)
  | crash
  deriving DecidableEq, Repr

def Halt.within (context : Fault → Fault) : Halt → Halt
  | fault cause => fault (context cause)
  | crash => crash

def namedFields (name : String) (fields : List (String × String)) : String :=
  name ++ " \x7b " ++ String.intercalate ", " (fields.map fun f => f.1 ++ ": " ++ f.2) ++ " \x7d"

def FileFault.outline (fault : FileFault) : String :=
  namedFields "Os" [("code", toString fault.code), ("kind", fault.kind),
    ("message", Quoted.encode fault.text)]

def IoFault.outline : IoFault → String
  | file fault => fault.outline
  | notUtf8 => namedFields "Error" [("kind", "InvalidData"),
      ("message", Quoted.encode notUtf8Text)]
  | described text => namedFields "Custom" [("kind", "Other"),
      ("error", Quoted.encode text)]

def Fault.outline : Fault → String
  | construction reason => namedFields "Construction" [("reason", Quoted.encode reason)]
  | copy id source =>
    namedFields "Copy" [("id", Quoted.encode id), ("source", source.outline)]
  | dimensionMismatch expected actual => namedFields "DimensionMismatch"
      [("expected", toString expected), ("actual", toString actual)]
  | emptyVector id => namedFields "EmptyVector" [("id", Quoted.encode id)]
  | nonFinite id => namedFields "NonFinite" [("id", Quoted.encode id)]
  | backend op source =>
    namedFields "Backend" [("op", Quoted.encode op), ("source", source.outline)]
  | graph cause => "Graph(" ++ Quoted.encode cause.message ++ ")"
  | snapshot cause => "Snapshot(" ++ Quoted.encode cause.message ++ ")"
  | io cause => "Io(" ++ cause.outline ++ ")"
  | settings text => "Config(" ++ Quoted.encode text ++ ")"
  | lockPoisoned resource =>
    namedFields "LockPoisoned" [("resource", Quoted.encode resource)]
  | closed => "Closed"

end EmbeddingIndex
