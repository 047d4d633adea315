import AgentTrial.FileSystem.Lookup

/-!
# Writing files

- `makeDir` adds one directory, `makeDirs` also the ones above it.
- `writeText` makes a file or replaces its content.
-/

namespace AgentTrial.FileSystem

/-- The file system with `node` at the end of `place`, innermost name first. -/
def putAt (fs : FileSystem) (place : List String) (node : Node) : FileSystem :=
  { fs with root := fs.root.put place.reverse node }

/-- Adds an empty directory where nothing is yet. -/
def makeDir (fs : FileSystem) (path : String) : Except FileError FileSystem :=
  let bare := if Path.trimSlashes path = "" then path else Path.trimSlashes path
  match fs.locate false bare with
  | .ok (.found _ _) => .error .alreadyExists
  | .ok (.missing within name) => .ok (fs.putAt (name :: within) (.dir .nil))
  | .error e => .error e

/-- A path and the directories above it, innermost first; `fuel` bounds their number. -/
def lineage (fuel : Nat) (path : String) : List String :=
  match fuel with
  | 0 => [path]
  | fuel + 1 =>
    match Path.parent? path with
    | some parent => path :: lineage fuel parent
    | none => [path]

/-- Makes the first directory of a lineage, and those above it that are missing. -/
def makeLineage (fs : FileSystem) : List String → Except FileError FileSystem
  | [] => .error (.other "failed to create whole tree")
  | path :: above =>
    if path.isEmpty then .ok fs
    else match fs.makeDir path with
      | .ok fs => .ok fs
      | .error e =>
        if fs.isDir path then .ok fs
        else if e ≠ .noEntry then .error e
        else match fs.makeLineage above with
          | .error e => .error e
          | .ok fs =>
            match fs.makeDir path with
            | .ok fs => .ok fs
            | .error e => if fs.isDir path then .ok fs else .error e

/-- Makes a directory and those above it that are missing. -/
def makeDirs (fs : FileSystem) (path : String) : Except FileError FileSystem :=
  fs.makeLineage (lineage path.length path)

/-- Writes a text to a file. -/
def writeText (fs : FileSystem) (path text : String) : Except FileError FileSystem :=
  match fs.locate true path with
  | .ok (.found place (.file _)) => .ok (fs.putAt place (.ofText text))
  | .ok (.found _ _) => .error .isDirectory
  | .ok (.missing within name) => .ok (fs.putAt (name :: within) (.ofText text))
  | .error e =>
    if path.toList.getLast? = some '/' ∧ e ≠ .nulInPath ∧ e ≠ .nameTooLong then .error .isDirectory
    else .error e

end AgentTrial.FileSystem
