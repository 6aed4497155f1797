import EmbeddingIndex.Yaml.Word
import EmbeddingIndex.Number.Shortest
/-!
Scalars written as YAML: plain where that reads back as the same text, quoted otherwise, and as a
literal block where there is a newline.
-/

namespace EmbeddingIndex.Yaml.Text

def isVisible (c : Char) : Bool :=
  let n := c.toNat
  n == 0x0a || (0x20 ≤ n && n ≤ 0x7e) || (0xa0 ≤ n && n ≠ 0xfeff && n ≠ 0xfffe && n ≠ 0xffff)

def leadingIndicators : List Char :=
  ['#', ',', '[', ']', '\x7b', '\x7d', '&', '*', '!', '|', '>', '\x27', '\x22', '%', '@', '\x60']

def startsLikeSyntax : List Char → Bool
  | [] => false
  | c :: rest =>
    leadingIndicators.contains c || (['?', ':', '-'].contains c && endsWord rest) ||
      [['-', '-', '-'], ['.', '.', '.']].contains ((c :: rest).take 3)

/-- A colon at the end of a word, or a number sign at the start of one, behind the first
character. -/
def hidesSyntax : List Char → Bool
  | a :: b :: rest =>
    (b = ':' && endsWord rest) || (b = '#' && endsWord [a]) || hidesSyntax (b :: rest)
  | _ => false

def isEdgeSpace (c : Option Char) : Bool := c.any fun c => c = ' ' || isBreak c

def hasPair (p q : Char → Bool) : List Char → Bool
  | a :: b :: rest => (p a && q b) || hasPair p q (b :: rest)
  | _ => false

def needsEscapes (text : List Char) : Bool :=
  text.any (!isVisible ·) || hasPair (· = ' ') isBreak text

def isPlain (text : List Char) : Bool :=
  !startsLikeSyntax text && !hidesSyntax text && !isEdgeSpace text.head? &&
    !isEdgeSpace text.getLast? && !text.any isBreak

def hexUpper (width n : Nat) : List Char :=
  let digits := (Nat.toDigits 16 n).map Char.toUpper
  List.replicate (width - digits.length) '0' ++ digits

def namedEscapes : List (Char × Char) :=
  [('\x00', '0'), ('\x07', 'a'), ('\x08', 'b'), ('\t', 't'), ('\n', 'n'), ('\x0b', 'v'),
    ('\x0c', 'f'), ('\r', 'r'), ('\x1b', 'e'), ('\x22', '\x22'), ('\\', '\\'), ('\u0085', 'N'),
    ('\u2028', 'L'), ('\u2029', 'P')]

def escape (c : Char) : List Char :=
  match namedEscapes.lookup c with
  | some letter => ['\\', letter]
  | none =>
    if isVisible c then [c]
    else if c.toNat ≤ 0xff then '\\' :: 'x' :: hexUpper 2 c.toNat
    else if c.toNat ≤ 0xffff then '\\' :: 'u' :: hexUpper 4 c.toNat
    else '\\' :: 'U' :: hexUpper 8 c.toNat

def doubleQuoted (text : List Char) : List Char := '\x22' :: text.flatMap escape ++ ['\x22']

def margin : List Char := [' ', ' ']

/-- Lines of a text behind the margin, which an empty line does without; the flag tells whether a
line starts here. -/
def indented : Bool → List Char → List Char
  | _, [] => []
  | atStart, c :: rest =>
    if isBreak c then c :: indented true rest
    else (if atStart then margin else []) ++ c :: indented false rest

def singleQuoted (text : List Char) : List Char :=
  let doubled := text.flatMap fun c => if c = '\x27' then [c, c] else [c]
  '\x27' :: indented false (doubled ++ ['\x27'])

def endsWithBreak (text : List Char) : Bool := text.getLast?.any isBreak

def chompingSign (text : List Char) : List Char :=
  if !endsWithBreak text then ['-']
  else if text.length = 1 || endsWithBreak text.dropLast then ['+']
  else []

def literalBlock (text : List Char) : List Char :=
  '|' :: (if isEdgeSpace text.head? then ['2'] else []) ++ chompingSign text ++ '\n' ::
    indented true text

def value (text : String) : List Char :=
  let chars := text.toList
  if needsEscapes chars then doubleQuoted chars
  else if chars.contains '\n' then
    if chars.getLast? = some ' ' then doubleQuoted chars else literalBlock chars
  else if standsForItself text && isPlain chars then chars
  else if hasPair isBreak (· = ' ') chars then doubleQuoted chars
  else singleQuoted chars

def entry (key text : String) : String :=
  let written := value text
  key ++ ": " ++ String.ofList (if endsWithBreak written then written else written ++ ['\n'])

def real (x : Binary64) : String :=
  if x.isNaN then ".nan"
  else if x.isFinite then x.text
  else if x.isNegative then "-.inf"
  else ".inf"

end EmbeddingIndex.Yaml.Text
