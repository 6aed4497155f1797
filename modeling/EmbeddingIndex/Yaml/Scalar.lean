import EmbeddingIndex.Yaml.Cursor
/-!
Scalars of a YAML text in each of their styles.
-/

namespace EmbeddingIndex.Yaml

inductive ScalarStyle
  | plain
  | quoted
  | literal
  | folded
  deriving DecidableEq, Repr

/-- White space inside a scalar: blanks on one line, or a first line break and those after it. -/
structure Spacing where
  blanks : List Char
  first : List Char
  more : List Char
  broken : Bool

namespace Spacing

def none : Spacing := ⟨[], [], [], false⟩

def afterEscapedBreak : Spacing := ⟨[], [], [], true⟩

/-- A single line break folds to a space, and of several all but the first are kept. -/
def text (s : Spacing) : List Char :=
  if s.broken then
    if s.first = ['\n'] then (if s.more.isEmpty then [' '] else s.more) else s.first ++ s.more
  else s.blanks

/-- Spacing up to the next visible character. A tab before the indent of a continued line is a
fault. -/
def read (indent : Int) : Nat → Cursor → Spacing → Option (Spacing × Cursor)
  | 0, c, s => some (s, c)
  | fuel + 1, c, s =>
    match c.head? with
    | some ch =>
      if isGap ch then
        if s.broken && (c.column : Int) < indent && ch = '\t' then Option.none
        else read indent fuel (c.skip 1) (if s.broken then s else { s with blanks := s.blanks ++ [ch] })
      else if isBreak ch then
        read indent fuel c.skipBreak
          (if s.broken then { s with more := s.more ++ c.breakText }
          else ⟨[], c.breakText, [], true⟩)
      else some (s, c)
    | Option.none => some (s, c)

end Spacing

def flowIndicators : List Char := [',', '[', ']', '\x7b', '\x7d']

def plainRun (inFlow : Bool) : Nat → Cursor → Option (List Char × Cursor)
  | 0, c => some ([], c)
  | fuel + 1, c =>
    match c.rest with
    | [] => some ([], c)
    | ch :: rest =>
      if endsWord c.rest then some ([], c)
      else if inFlow && ch = ':' && rest.head?.any (('?' :: flowIndicators).contains ·) then none
      else if (ch = ':' && endsWord rest) || (inFlow && flowIndicators.contains ch) then some ([], c)
      else (plainRun inFlow fuel (c.skip 1)).map fun (run, c) => (ch :: run, c)

/-- A plain scalar with the white space before its next run, and whether a line ended after it. -/
def plainScalar (inFlow : Bool) (indent : Int) :
    Nat → Cursor → Spacing → Option (List Char × Bool × Cursor)
  | 0, _, _ => none
  | fuel + 1, c, spacing =>
    if c.atDocumentMarker || c.looksAt '#' then some ([], spacing.broken, c)
    else
      match plainRun inFlow (c.rest.length + 1) c with
      | none => none
      | some ([], c) => some ([], spacing.broken, c)
      | some (run, c) =>
        let text := spacing.text ++ run
        if c.rest.isEmpty || !endsWord c.rest then some (text, false, c)
        else
          match Spacing.read indent (c.rest.length + 1) c .none with
          | none => none
          | some (spacing, c) =>
            if !inFlow && (c.column : Int) < indent then some (text, spacing.broken, c)
            else
              (plainScalar inFlow indent fuel c spacing).map fun (more, broken, c) =>
                (text ++ more, broken, c)

def hexDigit? (c : Char) : Option Nat :=
  if '0' ≤ c ∧ c ≤ '9' then some (c.toNat - '0'.toNat)
  else if 'a' ≤ c ∧ c ≤ 'f' then some (c.toNat - 'a'.toNat + 10)
  else if 'A' ≤ c ∧ c ≤ 'F' then some (c.toNat - 'A'.toNat + 10)
  else none

def hexNumber? (width : Nat) (text : List Char) : Option Nat :=
  if text.length < width then none
  else (text.take width).foldl
    (fun sum c => sum.bind fun n => (hexDigit? c).map (16 * n + ·)) (some 0)

def escapes : List (Char × Char) :=
  [('0', '\x00'), ('a', '\x07'), ('b', '\x08'), ('t', '\t'), ('\t', '\t'), ('n', '\n'),
    ('v', '\x0b'), ('f', '\x0c'), ('r', '\r'), ('e', '\x1b'), (' ', ' '), ('\x22', '\x22'),
    ('/', '/'), ('\\', '\\'), ('N', '\u0085'), ('_', '\u00a0'), ('L', '\u2028'), ('P', '\u2029')]

def codeWidth? (c : Char) : Option Nat := [('x', 2), ('u', 4), ('U', 8)].lookup c

def escaped? : List Char → Option (Char × Nat)
  | [] => none
  | letter :: rest =>
    match escapes.lookup letter, codeWidth? letter with
    | some c, _ => some (c, 1)
    | none, some width =>
      match hexNumber? width rest with
      | some n => if n.isValidChar then some (Char.ofNat n, width + 1) else none
      | none => none
    | none, none => none

def quoteSign (single : Bool) : Char := if single then '\x27' else '\x22'

/-- A quoted scalar's characters up to white space, the closing quote or an escaped line break. -/
def quotedRun (single : Bool) : Nat → Cursor → Option (List Char × Bool × Cursor)
  | 0, c => some ([], false, c)
  | fuel + 1, c =>
    let plain := fun ch n =>
      (quotedRun single fuel (c.skip n)).map fun (run, broken, c) => (ch :: run, broken, c)
    match c.rest with
    | [] => some ([], false, c)
    | ch :: rest =>
      if endsWord c.rest then some ([], false, c)
      else if single && ch = '\x27' && rest.head? = some '\x27' then plain '\x27' 2
      else if ch = quoteSign single then some ([], false, c)
      else if !single && ch = '\\' then
        if rest.head?.any isBreak then some ([], true, (c.skip 1).skipBreak)
        else
          match escaped? rest with
          | some (ch, width) => plain ch (width + 1)
          | none => none
      else plain ch 1

def quotedScalar (single : Bool) : Nat → Cursor → Option (List Char × Cursor)
  | 0, _ => none
  | fuel + 1, c =>
    if c.atDocumentMarker || c.rest.isEmpty then none
    else
      match quotedRun single (c.rest.length + 1) c with
      | none => none
      | some (run, broken, c) =>
        if c.looksAt (quoteSign single) then some (run, c.skip 1)
        else
          match Spacing.read (-1) (c.rest.length + 1) c
              (if broken then .afterEscapedBreak else .none) with
          | none => none
          | some (spacing, c) =>
            (quotedScalar single fuel c).map fun (more, c) => (run ++ spacing.text ++ more, c)

/-- Indentation and empty lines before a block scalar's next line, with the deepest column that was
reached. An indent of zero is not known yet. -/
def blockBreaks (indent : Nat) : Nat → Cursor → Nat → Option (List Char × Nat × Cursor)
  | 0, c, deepest => some ([], deepest, c)
  | fuel + 1, c, deepest =>
    let spaces := (c.rest.takeWhile (· = ' ')).length
    let c := c.skip (if indent = 0 then spaces else min spaces (indent - c.column))
    let deepest := max deepest c.column
    if (indent = 0 || c.column < indent) && c.looksAt '\t' then none
    else
      match c.head? with
      | some ch =>
        if isBreak ch then
          (blockBreaks indent fuel c.skipBreak deepest).map fun (breaks, deepest, next) =>
            (c.breakText ++ breaks, deepest, next)
        else some ([], deepest, c)
      | none => some ([], deepest, c)

inductive Chomping
  | strip
  | clip
  | keep
  deriving DecidableEq

def chomping? : Char → Option Chomping
  | '+' => some .keep
  | '-' => some .strip
  | _ => none

/-- What stands between a block scalar's lines: the break that ended the last line, the empty lines
after it, and whether the last line began with a blank. -/
structure LineEnd where
  first : List Char
  more : List Char
  blank : Bool

def blockLines (folded : Bool) (chomping : Chomping) (indent : Nat) :
    Nat → Cursor → LineEnd → Option (List Char × Cursor)
  | 0, _, _ => none
  | fuel + 1, c, ending =>
    if c.column = indent && !c.rest.isEmpty then
      let blank := c.head?.any isGap
      let joint :=
        if folded && ending.first = ['\n'] && !ending.blank && !blank then
          (if ending.more.isEmpty then [' '] else []) ++ ending.more
        else ending.first ++ ending.more
      let line := c.rest.takeWhile (!isBreak ·)
      let c := c.skip line.length
      match blockBreaks indent (c.rest.length + 1) c.skipBreak 0 with
      | none => none
      | some (breaks, _, next) =>
        (blockLines folded chomping indent fuel next ⟨c.breakText, breaks, blank⟩).map
          fun (more, c) => (joint ++ line ++ more, c)
    else
      let tail := match chomping with
        | .strip => []
        | .clip => ending.first
        | .keep => ending.first ++ ending.more
      some (tail, c)

def blockHeader (c : Cursor) : Option (Chomping × Nat × Cursor) :=
  let digit? := fun (c : Cursor) =>
    match c.head? with
    | some ch => if ch.isDigit then some (ch.toNat - '0'.toNat) else none
    | none => none
  match c.head?.bind chomping? with
  | some chomping =>
    let c := c.skip 1
    match digit? c with
    | some 0 => none
    | some n => some (chomping, n, c.skip 1)
    | none => some (chomping, 0, c)
  | none =>
    match digit? c with
    | some 0 => none
    | some n =>
      let c := c.skip 1
      match c.head?.bind chomping? with
      | some chomping => some (chomping, n, c.skip 1)
      | none => some (.clip, n, c)
    | none => some (.clip, 0, c)

def blockScalar (folded : Bool) (outer : Int) (c : Cursor) : Option (List Char × Cursor) :=
  match blockHeader c with
  | none => none
  | some (chomping, increment, c) =>
    let c := c.skipGap.skipComment
    if !endsLine c.rest then none
    else
      let c := c.skipBreak
      let known := if increment = 0 then 0 else (max outer 0).toNat + increment
      match blockBreaks known (c.rest.length + 1) c 0 with
      | none => none
      | some (breaks, deepest, c) =>
        let indent := if known = 0 then max (max deepest (outer + 1).toNat) 1 else known
        blockLines folded chomping indent (c.rest.length + 1) c ⟨[], breaks, false⟩

end EmbeddingIndex.Yaml
