/-!
Slash-separated paths.
-/

namespace EmbeddingIndex.Path

def isAbsolute (path : String) : Bool := path.toList.head? = some '/'

def steps (path : String) : List String :=
  ((path.toList.splitOn '/').map String.ofList).filter (· ≠ "")

def parts (path : String) : List String := (steps path).filter (· ≠ ".")

def endsInSlash (path : String) : Bool := path.toList.getLast? = some '/'

def join (dir name : String) : String :=
  if dir = "" then name
  else if dir.toList.getLast? = some '/' then dir ++ name
  else dir ++ "/" ++ name

def ofParts (absolute : Bool) (parts : List String) : String :=
  (if absolute then "/" else "") ++ String.intercalate "/" parts

def parent? (path : String) : Option String :=
  let dotted := if path.toList.take 2 = ['.', '/'] || path = "." then ["."] else []
  let all := dotted ++ parts path
  if all.isEmpty then none else some (ofParts (isAbsolute path) all.dropLast)

end EmbeddingIndex.Path
