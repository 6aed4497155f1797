import EmbeddingIndex.Yaml.Scalar
import EmbeddingIndex.Text.Bytes
/-!
Tokens of a YAML text: indicators and scalars, with the blocks that indentation opens and closes.
-/

namespace EmbeddingIndex.Yaml

inductive Token
  | version (major minor : Nat)
  | tagHandle (handle : String) (lead : Bytes)
  | documentStart
  | documentEnd
  | blockSequenceStart
  | blockMappingStart
  | blockEnd
  | flowSequenceStart
  | flowSequenceEnd
  | flowMappingStart
  | flowMappingEnd
  | blockEntry
  | flowEntry
  | key
  | value
  | alias (name : String)
  | anchor (name : String)
  | tag (handle : String) (suffix : Bytes)
  | scalar (style : ScalarStyle) (text : String)
  deriving DecidableEq, Repr

/-- A place where a mapping key without its own sign may have started. -/
structure Candidate where
  required : Bool
  position : Nat
  index : Nat
  line : Nat
  column : Nat

/-- `outer` holds the indents of the blocks around the current one, and `candidates` one place for
each flow level, innermost first. -/
structure Lexer where
  cursor : Cursor
  tokens : List Token
  indent : Int
  outer : List Int
  keyAllowed : Bool
  candidates : List (Option Candidate)

namespace Lexer

def start (text : List Char) : Lexer := ⟨.start text, [], -1, [], true, [none]⟩

def inFlow (l : Lexer) : Bool := 1 < l.candidates.length

def emit (l : Lexer) (t : Token) : Lexer := { l with tokens := l.tokens ++ [t] }

def moveTo (l : Lexer) (c : Cursor) : Lexer := { l with cursor := c }

def allowKey (l : Lexer) (allowed : Bool) : Lexer := { l with keyAllowed := allowed }

/-- A candidate has to be followed by a colon on its line, within 1024 bytes. -/
def isStale (c : Cursor) (candidate : Candidate) : Bool :=
  candidate.line < c.line || candidate.index + 1024 < c.index

def dropStale (l : Lexer) : Option Lexer :=
  let stale := fun (candidate : Option Candidate) => candidate.any (isStale l.cursor)
  if l.candidates.any fun c => stale c && c.any (·.required) then none
  else some { l with candidates := l.candidates.map fun c => if stale c then none else c }

def setCandidate (l : Lexer) (candidate : Option Candidate) : Option Lexer :=
  match l.candidates with
  | [] => some l
  | old :: rest =>
    if old.any (·.required) then none else some { l with candidates := candidate :: rest }

def forget (l : Lexer) : Option Lexer := l.setCandidate none

def propose (l : Lexer) : Option Lexer :=
  if l.keyAllowed then
    let c := l.cursor
    l.setCandidate (some ⟨!l.inFlow && l.indent = c.column, l.tokens.length, c.index, c.line, c.column⟩)
  else some l

def indentTo (l : Lexer) (column position : Nat) (opening : Token) : Lexer :=
  if !l.inFlow && l.indent < column then
    { l with
      indent := column
      outer := l.indent :: l.outer
      tokens := l.tokens.insertIdx position opening }
  else l

def closeBlocks (column : Int) : Int → List Int → List Token → Int × List Int × List Token
  | indent, [], tokens => (indent, [], tokens)
  | indent, next :: outer, tokens =>
    if column < indent then closeBlocks column next outer (tokens ++ [.blockEnd])
    else (indent, next :: outer, tokens)

def unindentTo (l : Lexer) (column : Int) : Lexer :=
  if l.inFlow then l
  else
    let (indent, outer, tokens) := closeBlocks column l.indent l.outer l.tokens
    { l with indent, outer, tokens }

/-- White space, comments and line breaks before the next token. A byte order mark may stand at the
start of any line, and a tab counts as white space only where no key may start. -/
def skipToToken : Nat → Lexer → Lexer
  | 0, l => l
  | fuel + 1, l =>
    let c := if l.cursor.column = 0 && l.cursor.looksAt '\ufeff' then l.cursor.skip 1 else l.cursor
    let tabs := l.inFlow || !l.keyAllowed
    let c := (c.skipWhile fun ch => ch = ' ' || (tabs && ch = '\t')).skipComment
    match c.head? with
    | some ch =>
      if isBreak ch then
        skipToToken fuel ((l.moveTo c.skipBreak).allowKey (l.keyAllowed || !l.inFlow))
      else l.moveTo c
    | none => l.moveTo c

def nameAt (c : Cursor) : String := String.ofList (c.rest.takeWhile isNameChar)

def versionNumber? (c : Cursor) : Option (Nat × Cursor) :=
  let digits := c.rest.takeWhile Char.isDigit
  if digits.isEmpty || 9 < digits.length then none
  else some (digits.foldl (fun n d => n * 10 + (d.toNat - '0'.toNat)) 0, c.skip digits.length)

def tagHandle? (directive : Bool) (c : Cursor) : Option (String × Cursor) :=
  if c.looksAt '!' then
    let name := (c.rest.drop 1).takeWhile isNameChar
    let c := c.skip (1 + name.length)
    if c.looksAt '!' then some (String.ofList ('!' :: name ++ ['!']), c.skip 1)
    else if directive && !name.isEmpty then none
    else some (String.ofList ('!' :: name), c)
  else none

def uriSigns : List Char :=
  [';', '/', '?', ':', '@', '&', '=', '+', '$', '.', '%', '!', '~', '*', '\x27', '(', ')']

def isUriChar (verbatim : Bool) (c : Char) : Bool :=
  isNameChar c || uriSigns.contains c || (verbatim && [',', '[', ']'].contains c)

def byteCount? (first : Nat) : Option Nat :=
  if first < 0x80 then some 1
  else if first < 0xc0 then none
  else if first < 0xe0 then some 2
  else if first < 0xf0 then some 3
  else if first < 0xf8 then some 4
  else none

/-- Bytes of a tag with its percent escapes resolved. The escapes of one character stand together;
`due` counts those that are yet to come. -/
def uriBytes (due : Nat) : List Char → Option Bytes
  | [] => if due = 0 then some [] else none
  | '%' :: a :: b :: rest =>
    (hexNumber? 2 [a, b]).bind fun n =>
      let count :=
        if due = 0 then byteCount? n
        else if 0x80 ≤ n && n < 0xc0 then some due
        else none
      count.bind fun count => (uriBytes (count - 1) rest).map (UInt8.ofNat n :: ·)
  | c :: rest => if c = '%' || due ≠ 0 then none else (uriBytes 0 rest).map (utf8 c.toString ++ ·)

def uri? (verbatim : Bool) (lead : List Char) (c : Cursor) : Option (Bytes × Cursor) :=
  let chars := c.rest.takeWhile (isUriChar verbatim)
  if lead.isEmpty && chars.isEmpty then none
  else
    (uriBytes 0 chars).map fun bytes =>
      ((utf8 (String.ofList (lead.drop 1)) ++ bytes).takeWhile (· ≠ 0), c.skip chars.length)

def tag? (c : Cursor) : Option (Token × Cursor) :=
  if c.rest.drop 1 |>.head? |>.any (· = '<') then
    match uri? true [] (c.skip 2) with
    | some (suffix, c) => if c.looksAt '>' then some (.tag "" suffix, c.skip 1) else none
    | none => none
  else
    match tagHandle? false c with
    | none => none
    | some (handle, c) =>
      let chars := handle.toList
      if 1 < chars.length && chars.getLast? = some '!' then
        (uri? false [] c).map fun (suffix, c) => (.tag handle suffix, c)
      else
        (uri? false chars c).map fun (suffix, c) =>
          (if suffix.isEmpty then .tag "" (utf8 "!") else .tag "!" suffix, c)

def directive? (c : Cursor) : Option (Token × Cursor) :=
  let name := nameAt (c.skip 1)
  let c := c.skip (1 + name.length)
  if name = "" || !endsWord c.rest then none
  else
    let found :=
      if name = "YAML" then
        match versionNumber? c.skipGap with
        | none => none
        | some (major, c) =>
          if c.looksAt '.' then
            (versionNumber? (c.skip 1)).map fun (minor, c) => (Token.version major minor, c)
          else none
      else if name = "TAG" then
        match tagHandle? true c.skipGap with
        | none => none
        | some (handle, c) =>
          if c.head?.any isGap then
            match uri? true [] c.skipGap with
            | none => none
            | some (lead, c) => if endsWord c.rest then some (.tagHandle handle lead, c) else none
          else none
      else none
    match found with
    | none => none
    | some (token, c) =>
      let c := c.skipGap.skipComment
      if endsLine c.rest then some (token, c.skipBreak) else none

def anchorEnders : List Char := ['?', ':', ',', ']', '\x7d', '%', '@', '\x60']

def anchorName? (c : Cursor) : Option (String × Cursor) :=
  let name := nameAt (c.skip 1)
  let c := c.skip (1 + name.length)
  if name ≠ "" && (endsWord c.rest || c.head?.any (anchorEnders.contains ·)) then some (name, c)
  else none

def sign (l : Lexer) (t : Token) (width : Nat) : Lexer := (l.moveTo (l.cursor.skip width)).emit t

def documentMarker (l : Lexer) (t : Token) : Option Lexer :=
  ((l.unindentTo (-1)).forget).map fun l => (l.allowKey false).sign t 3

def flowStart (l : Lexer) (t : Token) : Option Lexer :=
  l.propose.map fun l =>
    ({ l with candidates := none :: l.candidates }.allowKey true).sign t 1

def flowEnd (l : Lexer) (t : Token) : Option Lexer :=
  l.forget.map fun l =>
    let l := if l.inFlow then { l with candidates := l.candidates.drop 1 } else l
    (l.allowKey false).sign t 1

def flowEntry (l : Lexer) : Option Lexer :=
  l.forget.map fun l => (l.allowKey true).sign .flowEntry 1

def blockEntry (l : Lexer) : Option Lexer :=
  if !l.inFlow && !l.keyAllowed then none
  else
    (l.indentTo l.cursor.column l.tokens.length .blockSequenceStart).forget.map fun l =>
      (l.allowKey true).sign .blockEntry 1

def explicitKey (l : Lexer) : Option Lexer :=
  if !l.inFlow && !l.keyAllowed then none
  else
    (l.indentTo l.cursor.column l.tokens.length .blockMappingStart).forget.map fun l =>
      (l.allowKey !l.inFlow).sign .key 1

/-- A colon turns the candidate before it into a key. -/
def mappingValue (l : Lexer) : Option Lexer :=
  match l.candidates with
  | some candidate :: rest =>
    let l := { l with
      tokens := l.tokens.insertIdx candidate.position .key
      candidates := none :: rest }
    let l := l.indentTo candidate.column candidate.position .blockMappingStart
    some ((l.allowKey false).sign .value 1)
  | _ =>
    if !l.inFlow && !l.keyAllowed then none
    else
      let l := l.indentTo l.cursor.column l.tokens.length .blockMappingStart
      some ((l.allowKey !l.inFlow).sign .value 1)

def node (l : Lexer) (read : Cursor → Option (Token × Cursor)) : Option Lexer :=
  l.propose.bind fun l =>
    (read l.cursor).map fun (t, c) => ((l.allowKey false).moveTo c).emit t

def block (l : Lexer) (style : ScalarStyle) : Option Lexer :=
  l.forget.bind fun l =>
    (blockScalar (style = .folded) l.indent (l.cursor.skip 1)).map fun (text, c) =>
      ((l.allowKey true).moveTo c).emit (.scalar style (String.ofList text))

def quoted (single : Bool) (c : Cursor) : Option (Token × Cursor) :=
  (quotedScalar single (c.rest.length + 1) (c.skip 1)).map fun (text, c) =>
    (.scalar .quoted (String.ofList text), c)

/-- A key may follow a plain scalar that a line break ended. -/
def plain (l : Lexer) : Option Lexer :=
  l.propose.bind fun l =>
    (plainScalar l.inFlow (l.indent + 1) (l.cursor.rest.length + 1) l.cursor .none).map
      fun (text, broken, c) =>
        ((l.allowKey broken).moveTo c).emit (.scalar .plain (String.ofList text))

def indicators : List Char :=
  ['-', '?', ':', ',', '[', ']', '\x7b', '\x7d', '#', '&', '*', '!', '|', '>', '\x27', '\x22', '%',
    '@', '\x60']

def startsPlain (inFlow : Bool) (ch : Char) (rest : List Char) : Bool :=
  (!indicators.contains ch && !isGap ch) || (ch = '-' && !rest.head?.any isGap) ||
    (!inFlow && (ch = '?' || ch = ':') && !endsWord rest)

def next (l : Lexer) : Option Lexer :=
  let c := l.cursor
  match c.rest with
  | [] => (l.unindentTo (-1)).forget
  | ch :: rest =>
    let apart := endsWord rest
    if c.column = 0 && ch = '%' then
      ((l.unindentTo (-1)).forget).bind fun l =>
        (directive? l.cursor).map fun (t, c) => ((l.allowKey false).moveTo c).emit t
    else if c.atMarker '-' then l.documentMarker .documentStart
    else if c.atMarker '.' then l.documentMarker .documentEnd
    else if ch = '[' then l.flowStart .flowSequenceStart
    else if ch = '\x7b' then l.flowStart .flowMappingStart
    else if ch = ']' then l.flowEnd .flowSequenceEnd
    else if ch = '\x7d' then l.flowEnd .flowMappingEnd
    else if ch = ',' then l.flowEntry
    else if ch = '-' && apart then l.blockEntry
    else if ch = '?' && (l.inFlow || apart) then l.explicitKey
    else if ch = ':' && (l.inFlow || apart) then l.mappingValue
    else if ch = '*' then l.node fun c => (anchorName? c).map fun (name, c) => (.alias name, c)
    else if ch = '&' then l.node fun c => (anchorName? c).map fun (name, c) => (.anchor name, c)
    else if ch = '!' then
      l.node fun c =>
        (tag? c).bind fun (t, c) =>
          if (l.inFlow && c.looksAt ',') || endsWord c.rest then some (t, c) else none
    else if ch = '|' && !l.inFlow then l.block .literal
    else if ch = '>' && !l.inFlow then l.block .folded
    else if ch = '\x27' then l.node (quoted true)
    else if ch = '\x22' then l.node (quoted false)
    else if startsPlain l.inFlow ch rest then l.plain
    else none

def run : Nat → Lexer → Option (List Token)
  | 0, _ => none
  | fuel + 1, l =>
    let l := skipToToken (l.cursor.rest.length + 1) l
    match l.dropStale with
    | none => none
    | some l =>
      let l := l.unindentTo l.cursor.column
      if l.cursor.rest.isEmpty then l.next.map (·.tokens) else l.next.bind (run fuel)

end Lexer

def tokens? (text : String) : Option (List Token) :=
  let chars := text.toList
  if chars.all isAllowed then Lexer.run (chars.length + 2) (.start chars) else none

end EmbeddingIndex.Yaml
