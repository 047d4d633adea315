import AgentTrial.FileSystem.Node
import AgentTrial.FileSystem.Error
import AgentTrial.Path

/-!
# Looking files up

A file system is a file tree and the directory that relative paths start from. Links are followed,
forty at most. Names and paths are texts: names that are no text are not modelled.

- `walk` follows a path name by name; `locate` starts it where the path starts.
- `isFile`, `isDir`, `directory?` and `readText` are what the harness asks of a path.
-/

namespace AgentTrial

/-- A file tree with a working directory. -/
structure FileSystem where
  root : FileSystem.Node
  workingDir : List String
  /-- What goes wrong first while the directory at a path is listed, if something does. -/
  unlisted : String → Option FileError := fun _ => none

namespace FileSystem

/-- Where a path leads: to a node, or to a name that a directory does not have. `place` and
`within` are names from the root, innermost first. -/
inductive Spot where
  | found (place : List String) (node : Node)
  | missing (within : List String) (name : String)

/-- The longest name that a directory holds, and the longest path, in bytes. -/
def maxName : Nat := 255

def maxPath : Nat := 4095

/-- Follows names from the directory `place`. A link on the way is left to `jump`, with the directory
to start from and the names to follow; so is a link at the end, when `follow` says so. -/
def walkBy (root : Node) (follow : Bool)
    (jump : List String → List String → Except FileError Spot) (place : List String) :
    List String → Except FileError Spot
  | [] =>
    match root.find? place.reverse with
    | some node => .ok (.found place node)
    | none => .error .noEntry
  | name :: names =>
    match root.find? place.reverse with
    | some (.dir entries) =>
      if name = "" ∨ name = "." then walkBy root follow jump place names
      else if name = ".." then walkBy root follow jump place.tail names
      else if maxName < name.utf8ByteSize then .error .nameTooLong
      else match entries.find? name with
        | none => if names = [] then .ok (.missing place name) else .error .noEntry
        | some (.link target) =>
          if names = [] ∧ ¬ follow then .ok (.found (name :: place) (.link target))
          else jump (if Path.isAbsolute target then [] else place) (Path.parts target ++ names)
        | some _ => walkBy root follow jump (name :: place) names
    | some _ => .error .notDirectory
    | none => .error .noEntry

/-- Follows names from a directory, with at most `links` links on the way. -/
def walk (root : Node) (follow : Bool) :
    (links : Nat) → List String → List String → Except FileError Spot
  | 0 => walkBy root follow fun _ _ => .error .tooManyLinks
  | links + 1 => walkBy root follow (walk root follow links)

/-- Where a path leads. -/
def locate (fs : FileSystem) (follow : Bool) (path : String) : Except FileError Spot :=
  if path.toList.contains '\x00' then .error .nulInPath
  else if path.isEmpty then .error .noEntry
  else if maxPath < path.utf8ByteSize then .error .nameTooLong
  else walk fs.root follow 40 (if Path.isAbsolute path then [] else fs.workingDir.reverse)
    (Path.parts path)

/-- The node that a path leads to, links followed. -/
def node? (fs : FileSystem) (path : String) : Except FileError Node :=
  match fs.locate true path with
  | .ok (.found _ node) => .ok node
  | .ok (.missing _ _) => .error .noEntry
  | .error e => .error e

/-- Whether a path leads to a regular file. -/
def isFile (fs : FileSystem) (path : String) : Bool :=
  match fs.node? path with
  | .ok node => node.isFile
  | .error _ => false

/-- The entries of the directory that a path leads to. -/
def directory? (fs : FileSystem) (path : String) : Option Entries :=
  match fs.node? path with
  | .ok (.dir entries) => some entries
  | _ => none

/-- Whether a path leads to a directory. -/
def isDir (fs : FileSystem) (path : String) : Bool :=
  (fs.directory? path).isSome

/-- The text of a file. -/
def readText (fs : FileSystem) (path : String) : Except FileError String :=
  match fs.node? path with
  | .ok (.file content) =>
    match Text.Utf8.decode? content with
    | some text => .ok text
    | none => .error .notText
  | .ok _ => .error .isDirectory
  | .error e => .error e

end FileSystem

end AgentTrial
