import EmbeddingIndex.Text.Unprintable
import EmbeddingIndex.Text.Extending
/-!
Quoted text in messages: every character shows as itself or as a visible escape.
-/

namespace EmbeddingIndex.Quoted

def hexEscape (c : Char) : List Char :=
  '\\' :: 'u' :: '\x7b' :: (Nat.toDigits 16 c.toNat ++ ['\x7d'])

def escape (c : Char) : List Char :=
  if c = '\x22' || c = '\\' then ['\\', c]
  else if c = '\n' then ['\\', 'n']
  else if c = '\r' then ['\\', 'r']
  else if c = '\t' then ['\\', 't']
  else if c = '\x00' then ['\\', '0']
  else if extendsGrapheme c || !isPrintable c then hexEscape c
  else [c]

def encode (text : String) : String :=
  String.ofList ('\x22' :: text.toList.flatMap escape ++ ['\x22'])

end EmbeddingIndex.Quoted
