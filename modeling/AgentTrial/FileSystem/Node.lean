import AgentTrial.Text.Utf8

/-!
# File trees

A file tree: regular files, symbolic links and directories. The entries of a directory have no
particular order; of two entries of one name the first counts.

- `Node.find?` follows names down a tree without following links.
- `Node.files` lists the regular files below a directory with their relative paths.
- `Entries.walk` lists all that is below a directory.
- `Node.put` adds or replaces a node, making directories on the way.
-/

namespace AgentTrial.FileSystem

mutual

/-- A file, a link or a directory. -/
inductive Node where
  | file (content : List UInt8)
  | link (target : String)
  | dir (entries : Entries)

/-- The entries of a directory. -/
inductive Entries where
  | nil
  | cons (name : String) (node : Node) (rest : Entries)

end

instance : Inhabited Node := ⟨.dir .nil⟩

namespace Entries

/-- The entries as a list of names and nodes. -/
def toList : Entries → List (String × Node)
  | .nil => []
  | .cons name node rest => (name, node) :: rest.toList

/-- The entry of a name. -/
def find? (name : String) : Entries → Option Node
  | .nil => none
  | .cons other node rest => if other = name then some node else rest.find? name

/-- The entries with the node under `name` replaced, or added at the end. -/
def put (name : String) (new : Node) : Entries → Entries
  | .nil => .cons name new .nil
  | .cons other node rest =>
    if other = name then .cons other new rest else .cons other node (rest.put name new)

end Entries

namespace Node

/-- A regular file that holds a text. -/
def ofText (s : String) : Node := .file (Text.Utf8.encode s)

def isFile : Node → Bool
  | .file _ => true
  | _ => false

def isDir : Node → Bool
  | .dir _ => true
  | _ => false

/-- The entries of a directory, and none of anything else. -/
def entries : Node → Entries
  | .dir entries => entries
  | _ => .nil

/-- The node that a row of names leads to. -/
def find? : Node → List String → Option Node
  | node, [] => some node
  | .dir entries, name :: names => (entries.find? name).bind (·.find? names)
  | _, _ :: _ => none

/-- The tree with `new` at the end of a row of names. Where the row meets no directory, one is
made. -/
def put (tree : Node) (names : List String) (new : Node) : Node :=
  match names with
  | [] => new
  | name :: names =>
    let below := (tree.entries.find? name).getD (.dir .nil)
    .dir (tree.entries.put name (below.put names new))

end Node

mutual

/-- The regular files of a tree, each with the names that lead to it and its bytes. Links are not
followed. -/
def Node.files : Node → List (List String × List UInt8)
  | .file content => [([], content)]
  | .link _ => []
  | .dir entries => entries.files

/-- The regular files below the entries of a directory. -/
def Entries.files : Entries → List (List String × List UInt8)
  | .nil => []
  | .cons name node rest =>
    (node.files.map fun (names, content) => (name :: names, content)) ++ rest.files

end

mutual

/-- What is below a node, each with the names that lead to it. Links are not followed. -/
def Node.walk : Node → List (List String × Node)
  | .file _ => []
  | .link _ => []
  | .dir entries => entries.walk

/-- The entries of a directory, each followed by what is below it. -/
def Entries.walk : Entries → List (List String × Node)
  | .nil => []
  | .cons name node rest =>
    ([name], node) :: (node.walk.map fun (names, below) => (name :: names, below)) ++ rest.walk

end

end AgentTrial.FileSystem
