import EmbeddingIndex.Yaml.Token
/-!
The nodes of a YAML document, and reading them from tokens.
-/

namespace EmbeddingIndex.Yaml

/-- An alias keeps the number of its anchor, since an anchor may stand around its own alias. -/
inductive Node
  | alias (anchor : Nat)
  | scalar (style : ScalarStyle) (tag : Option Bytes) (text : String)
  | sequence (tag : Option Bytes) (items : List Node)
  | mapping (tag : Option Bytes) (pairs : List (Node × Node))

/-- An anchor's number is the count of other names known before its own, which is not unique where
a name is declared again. `places` holds the places of anchored nodes by number, the last one
first, and `anchored` holds the nodes by place. -/
structure Document where
  content : Node
  places : List (Nat × Nat)
  anchored : List (Nat × Node)

namespace Document

/-- The node that an alias stands for: of those with its number, the last one to start. -/
def resolve (d : Document) : Node → Option Node
  | .alias anchor => (d.places.lookup anchor).bind (d.anchored.lookup ·)
  | node => some node

end Document

namespace Node

def blank (tag : Option Bytes) : Node := scalar .plain tag ""

structure Reading where
  tokens : List Token
  handles : List (String × Bytes)
  names : List (String × Nat)
  places : List (Nat × Nat)
  anchored : List (Nat × Node)

abbrev Read := StateT Reading Option

def peek : Read (Option Token) := return (← get).tokens.head?

def advance : Read Unit := modify fun r => { r with tokens := r.tokens.drop 1 }

def refuse {α : Type} : Read α := StateT.lift none

def accept (t : Token) : Read Bool := do
  if (← peek) = some t then
    advance
    return true
  else return false

def expect (t : Token) : Read Unit := do
  if ← accept t then return () else refuse

def nextIsOneOf (ts : List Token) : Read Bool := do
  match ← peek with
  | some t => return ts.contains t
  | none => return false

def declare (name : String) : Read Nat := do
  let r ← get
  let number := r.names.length
  let place := r.places.length
  set { r with
    names := (name, number) :: r.names.filter (·.1 ≠ name)
    places := (number, place) :: r.places }
  return place

def bind (place : Option Nat) (node : Node) : Read Node := do
  match place with
  | none => return node
  | some n =>
    modify fun r => { r with anchored := (n, node) :: r.anchored }
    return node

def resolveTag (handle : String) (suffix : Bytes) : Read Bytes := do
  if handle = "" then return suffix
  match (← get).handles.lookup handle with
  | some lead => return lead ++ suffix
  | none => refuse

def anchorHere : Read (Option Nat) := do
  match ← peek with
  | some (.anchor name) =>
    advance
    return some (← declare name)
  | _ => return none

def tagHere : Read (Option Bytes) := do
  match ← peek with
  | some (.tag handle suffix) =>
    advance
    return some (← resolveTag handle suffix)
  | _ => return none

def properties : Read (Option Nat × Option Bytes) := do
  match ← anchorHere with
  | some anchor => return (some anchor, ← tagHere)
  | none =>
    let tag ← tagHere
    if tag.isSome then return (← anchorHere, tag) else return (none, none)

mutual

/-- One node. Blocks may start here only if `inBlock` is set, and a sequence at the indent of the
mapping around it only if `atIndent` is. -/
def read : Nat → Bool → Bool → Read Node
  | 0, _, _ => refuse
  | fuel + 1, inBlock, atIndent => do
    match ← peek with
    | some (.alias name) =>
      advance
      match (← get).names.lookup name with
      | some anchor => return .alias anchor
      | none => refuse
    | _ =>
      let (anchor, tag) ← properties
      match ← peek with
      | some .blockEntry =>
        if atIndent then bind anchor (.sequence tag (← readAtIndent fuel))
        else if anchor.isSome || tag.isSome then bind anchor (blank tag)
        else refuse
      | some (.scalar style text) =>
        advance
        bind anchor (.scalar style tag text)
      | some .flowSequenceStart =>
        advance
        bind anchor (.sequence tag (← readFlowItems fuel true))
      | some .flowMappingStart =>
        advance
        bind anchor (.mapping tag (← readFlowPairs fuel true))
      | other =>
        if inBlock && other = some .blockSequenceStart then
          advance
          bind anchor (.sequence tag (← readBlockItems fuel))
        else if inBlock && other = some .blockMappingStart then
          advance
          bind anchor (.mapping tag (← readBlockPairs fuel))
        else if anchor.isSome || tag.isSome then bind anchor (blank tag)
        else refuse

def readUnless : Nat → List Token → Bool → Bool → Read Node
  | 0, _, _, _ => refuse
  | fuel + 1, enders, inBlock, atIndent => do
    if ← nextIsOneOf enders then return blank none else read fuel inBlock atIndent

def readBlockItems : Nat → Read (List Node)
  | 0 => refuse
  | fuel + 1 => do
    if ← accept .blockEntry then
      let item ← readUnless fuel [.blockEntry, .blockEnd] true false
      return item :: (← readBlockItems fuel)
    else
      expect .blockEnd
      return []

def readAtIndent : Nat → Read (List Node)
  | 0 => refuse
  | fuel + 1 => do
    if ← accept .blockEntry then
      let item ← readUnless fuel [.blockEntry, .key, .value, .blockEnd] true false
      return item :: (← readAtIndent fuel)
    else return []

def readBlockPairs : Nat → Read (List (Node × Node))
  | 0 => refuse
  | fuel + 1 => do
    if ← accept .key then
      let enders := [Token.key, .value, .blockEnd]
      let key ← readUnless fuel enders true true
      let value ← if ← accept .value then readUnless fuel enders true true else pure (blank none)
      return (key, value) :: (← readBlockPairs fuel)
    else
      expect .blockEnd
      return []

def readFlowItems : Nat → Bool → Read (List Node)
  | 0, _ => refuse
  | fuel + 1, first => do
    if ← accept .flowSequenceEnd then return []
    unless first do expect .flowEntry
    if ← accept .key then
      let enders := [Token.value, .flowEntry, .flowSequenceEnd]
      let absent ← nextIsOneOf enders
      if absent then advance
      let key ← if absent then pure (blank none) else read fuel false false
      let value ←
        if ← accept .value then readUnless fuel [.flowEntry, .flowSequenceEnd] false false
        else pure (blank none)
      return .mapping none [(key, value)] :: (← readFlowItems fuel false)
    else if ← accept .flowSequenceEnd then return []
    else
      let item ← read fuel false false
      return item :: (← readFlowItems fuel false)

def readFlowPairs : Nat → Bool → Read (List (Node × Node))
  | 0, _ => refuse
  | fuel + 1, first => do
    if ← accept .flowMappingEnd then return []
    unless first do expect .flowEntry
    if ← accept .key then
      let key ← readUnless fuel [.value, .flowEntry, .flowMappingEnd] false false
      let value ←
        if ← accept .value then readUnless fuel [.flowEntry, .flowMappingEnd] false false
        else pure (blank none)
      return (key, value) :: (← readFlowPairs fuel false)
    else if ← accept .flowMappingEnd then return []
    else
      let key ← read fuel false false
      return (key, blank none) :: (← readFlowPairs fuel false)

end

end Node

namespace Document

def coreLead : Bytes := utf8 "tag:yaml.org,2002:"

def standardHandles : List (String × Bytes) := [("!", utf8 "!"), ("!!", coreLead)]

/-- Directives in front of a document: at most one version, of the first kind, and each handle
once. -/
def readDirectives : Bool → List (String × Bytes) → List Token →
    Option (List (String × Bytes) × List Token)
  | seen, handles, .version major minor :: rest =>
    if seen || major ≠ 1 || (minor ≠ 1 && minor ≠ 2) then none else readDirectives true handles rest
  | seen, handles, .tagHandle handle lead :: rest =>
    if handles.any (·.1 = handle) then none
    else readDirectives seen (handles ++ [(handle, lead)]) rest
  | _, handles, rest => some (handles, rest)

def readContent (handles : List (String × Bytes)) (tokens : List Token) :
    Option (Document × List Token) :=
  match (Node.read (4 * tokens.length + 8) true false).run
      ⟨tokens, handles ++ standardHandles, [], [], []⟩ with
  | some (content, r) => some (⟨content, r.places, r.anchored⟩, r.tokens)
  | none => none

def isMarker : Token → Bool
  | .version _ _ => true
  | .tagHandle _ _ => true
  | .documentStart => true
  | .documentEnd => true
  | _ => false

def readOne (tokens : List Token) : Option (Document × List Token) :=
  match readDirectives false [] tokens with
  | none => none
  | some (handles, .documentStart :: rest) =>
    if rest.isEmpty || rest.head?.any isMarker then some (⟨.blank none, [], []⟩, rest)
    else readContent handles rest
  | some _ => none

def parse? (text : String) : Option Document :=
  match tokens? text with
  | none => none
  | some [] => some ⟨.blank none, [], []⟩
  | some (first :: rest) =>
    let tokens := first :: rest
    let found :=
      if isMarker first && first ≠ .documentEnd then readOne tokens else readContent [] tokens
    match found with
    | some (d, rest) => if rest.all (· = .documentEnd) then some d else none
    | none => none

end Document

end EmbeddingIndex.Yaml
