import EmbeddingIndex.Files.Path
/-!
Standard places for settings and data, from the environment.
-/

namespace EmbeddingIndex

/-- `account` is the home directory to use where `home` does not tell one. -/
structure Environment where
  home : Option String
  account : Option String
  configHome : Option String
  dataHome : Option String
  settingsFile : Option String

namespace Environment

def program : String := "bix"

def homeDir (e : Environment) : Option String :=
  match e.home.filter (· ≠ "") with
  | some home => some home
  | none => e.account

/-- An override counts only if it is absolute; without a home directory nothing counts. -/
def base (e : Environment) (override : Option String) (standard : String) : Option String :=
  e.homeDir.map fun home => (override.filter Path.isAbsolute).getD (Path.join home standard)

def configDir (e : Environment) : Option String :=
  (e.base e.configHome ".config").map (Path.join · program)

def indexDir (e : Environment) : Option String :=
  (e.base e.dataHome ".local/share").map fun dir => Path.join (Path.join dir program) "index"

end Environment

end EmbeddingIndex
