import EmbeddingIndex.Files.Path
import EmbeddingIndex.Text.Bytes
import EmbeddingIndex.Fault
/-!
A file tree as a value: what stands at each absolute location, and the directory that relative
paths start from.
-/

namespace EmbeddingIndex

inductive FileNode
  | file (bytes : Bytes)
  | directory
  deriving DecidableEq, Repr

/-- Names from the root down. -/
abbrev Location := List String

structure FileTree where
  base : Location
  nodes : List (Location × FileNode)
  deriving DecidableEq, Repr

namespace FileTree

def nodeAt (files : FileTree) (location : Location) : Option FileNode :=
  if location = [] then some .directory else files.nodes.lookup location

def setNode (location : Location) (node : FileNode) : List (Location × FileNode) → List (Location × FileNode)
  | [] => [(location, node)]
  | old :: rest =>
    if old.1 = location then (location, node) :: rest else old :: setNode location node rest

def place (files : FileTree) (location : Location) (node : FileNode) : FileTree :=
  { files with nodes := setNode location node files.nodes }

def drop (files : FileTree) (location : Location) : FileTree :=
  { files with nodes := files.nodes.filter (·.1 ≠ location) }

def longestName (nodes : List (Location × FileNode)) : Nat :=
  nodes.foldr (fun node longest => max (node.1.getLast?.getD "").length longest) 0

/-- A name that nothing in the tree has, since it is longer than all of them. -/
def freeName (files : FileTree) : String :=
  String.ofList ('.' :: List.replicate (longestName files.nodes) 't')

theorem length_le_longestName (nodes : List (Location × FileNode)) (node : Location × FileNode)
    (present : node ∈ nodes) : (node.1.getLast?.getD "").length ≤ longestName nodes := by
  induction nodes with
  | nil => simp at present
  | cons head tail ih =>
    simp only [longestName, List.foldr_cons]
    rcases List.mem_cons.mp present with same | member
    · rw [same]
      exact Nat.le_max_left _ _
    · exact Nat.le_trans (ih member) (Nat.le_max_right _ _)

theorem length_freeName (files : FileTree) :
    files.freeName.length = longestName files.nodes + 1 := by
  rw [freeName, String.length_ofList, List.length_cons, List.length_replicate]

theorem nodeAt_freeName (files : FileTree) (dir : Location) :
    files.nodeAt (dir ++ [files.freeName]) = none := by
  have inside : dir ++ [files.freeName] ≠ [] := by simp
  have last : (dir ++ [files.freeName]).getLast?.getD "" = files.freeName := by simp
  rw [nodeAt, if_neg inside, List.lookup_eq_none_iff]
  intro node present
  have short := length_le_longestName files.nodes node present
  rw [bne_iff_ne]
  intro same
  rw [← same, last, length_freeName] at short
  omega

def nameLimit : Nat := 255

def pathLimit : Nat := 4095

/-- Follows the steps of a path. Each of them starts from a directory, which a dot stays in. -/
def follow (files : FileTree) : Location → List String → Except FileFault Location
  | location, [] => .ok location
  | location, step :: rest =>
    match files.nodeAt location with
    | none => .error .notFound
    | some (.file _) => .error .notADirectory
    | some .directory =>
      if step = "." then follow files location rest
      else if step = ".." then follow files location.dropLast rest
      else if nameLimit < step.utf8ByteSize then .error .nameTooLong
      else follow files (location ++ [step]) rest

def walk (files : FileTree) (path : String) (steps : List String) : Except FileFault Location :=
  if path = "" then .error .notFound
  else if path.toList.contains '\x00' then .error .invalidPath
  else if pathLimit < path.utf8ByteSize then .error .nameTooLong
  else files.follow (if Path.isAbsolute path then [] else files.base) steps

def locate (files : FileTree) (path : String) : Except FileFault Location :=
  files.walk path (Path.steps path)

def enclosing (files : FileTree) (path : String) : Except FileFault Location :=
  files.walk path ((Path.steps path).dropLast ++ ["."])

def find (files : FileTree) (path : String) : Except FileFault FileNode :=
  match files.locate path with
  | .error fault => .error fault
  | .ok location =>
    match files.nodeAt location with
    | none => .error .notFound
    | some .directory => .ok .directory
    | some (.file bytes) =>
      if Path.endsInSlash path then .error .notADirectory else .ok (.file bytes)

def isFile (files : FileTree) (path : String) : Bool :=
  match files.find path with
  | .ok (.file _) => true
  | _ => false

def isDirectory (files : FileTree) (path : String) : Bool :=
  match files.find path with
  | .ok .directory => true
  | _ => false

def read (files : FileTree) (path : String) : Except FileFault Bytes :=
  match files.find path with
  | .ok (.file bytes) => .ok bytes
  | .ok .directory => .error .isADirectory
  | .error fault => .error fault

/-- Creates the file or replaces its content. A path that ends in a slash is refused before its last
step is looked up. -/
def write (files : FileTree) (path : String) (bytes : Bytes) : Except FileFault FileTree :=
  match files.enclosing path with
  | .error fault => .error fault
  | .ok _ =>
    if Path.endsInSlash path then .error .isADirectory
    else
      match files.locate path with
      | .error fault => .error fault
      | .ok location =>
        if files.nodeAt location = some .directory then .error .isADirectory
        else .ok (files.place location (.file bytes))

def makeDirectory (files : FileTree) (path : String) : Except FileFault FileTree :=
  match files.locate path with
  | .error fault => .error fault
  | .ok location =>
    match files.nodeAt location with
    | some _ => .error .alreadyExists
    | none => .ok (files.place location .directory)

def makeDirectories (files : FileTree) (path : String) : Except FileFault Unit × FileTree :=
  climb files path path.length
where
  climb (files : FileTree) (path : String) : Nat → Except FileFault Unit × FileTree
    | 0 => (.ok (), files)
    | fuel + 1 =>
      match files.makeDirectory path with
      | .ok made => (.ok (), made)
      | .error .notFound =>
        match Path.parent? path with
        | none => (.error .notFound, files)
        | some parent =>
          match (if parent = "" then (.ok (), files) else climb files parent fuel) with
          | (.error fault, files) => (.error fault, files)
          | (.ok _, files) =>
            match files.makeDirectory path with
            | .ok made => (.ok (), made)
            | .error fault =>
              (if files.isDirectory path then .ok () else .error fault, files)
      | .error fault => (if files.isDirectory path then .ok () else .error fault, files)

def rename (files : FileTree) (source target : Location) : Except FileFault FileTree :=
  match files.nodeAt source, files.nodeAt target with
  | none, _ => .error .notFound
  | some _, some .directory => .error .isADirectory
  | some node, _ => .ok ((files.drop source).place target node)

def prune (files : FileTree) (location : Location) : FileTree :=
  { files with nodes := files.nodes.filter fun node => !location.isPrefixOf node.1 }

def members (files : FileTree) (location : Location) : List String :=
  files.nodes.filterMap fun node =>
    if node.1.dropLast = location then node.1.getLast? else none

end FileTree

end EmbeddingIndex
