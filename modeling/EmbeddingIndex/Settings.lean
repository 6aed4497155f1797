import EmbeddingIndex.Number.Binary64
/-!
Settings of an index. A number that is zero is unset and has a default.
-/

namespace EmbeddingIndex

inductive Preference
  | auto
  | graph
  | exact
  deriving DecidableEq, Repr

namespace Preference

def name : Preference → String
  | auto => "auto"
  | graph => "graph"
  | exact => "exact"

def named (name : String) : Option Preference :=
  [auto, graph, exact].find? (·.name == name)

end Preference

structure Tuning where
  neighbors : Nat
  searchBreadth : Nat
  levelFactor : Binary64
  buildBreadth : Nat
  capacity : Nat
  deriving DecidableEq, Repr

structure Settings where
  threshold : Nat
  dir : Option String
  preference : Preference
  tuning : Tuning
  deriving DecidableEq, Repr

def orDefault (value standard : Nat) : Nat := if value = 0 then standard else value

namespace Tuning

def unset : Tuning := ⟨0, 0, ⟨0⟩, 0, 0⟩

def standard : Tuning := ⟨16, 100, ⟨0x3fd0000000000000⟩, 200, 1000000⟩

def effective (t : Tuning) : Tuning :=
  ⟨orDefault t.neighbors standard.neighbors, orDefault t.searchBreadth standard.searchBreadth,
    if t.levelFactor.isPositive then t.levelFactor else standard.levelFactor,
    orDefault t.buildBreadth standard.buildBreadth, orDefault t.capacity standard.capacity⟩

/-- The graph's highest layer: the logarithm of its capacity by the level factor, rounded up. -/
def topLevel (t : Tuning) : Nat :=
  let e := t.effective
  let level := (Float.ofBits (Binary64.ofNat e.capacity).bits).log * Float.ofBits e.levelFactor.bits
  max 1 level.ceil.toUInt64.toNat

end Tuning

namespace Settings

def unset : Settings := ⟨0, none, .auto, .unset⟩

def standardThreshold : Nat := 1000

def effective (s : Settings) : Settings :=
  ⟨orDefault s.threshold standardThreshold, s.dir.filter (!·.isEmpty), s.preference,
    s.tuning.effective⟩

def standard : Settings := unset.effective

end Settings

end EmbeddingIndex
