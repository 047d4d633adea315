import AgentTrial.Error
import AgentTrial.FileSystem.Node
import AgentTrial.Path
import AgentTrial.Sandbox.Call

/-!
# Packing

Makes an archive of a directory in a temporary file: all that is below the directory is visited, and
what is a regular file is appended under its path relative to the directory. The local disk may fail
at every step.

- `Scratch` is how the disk takes what it is asked for.
- `fill` visits and appends, `packing` is the whole; `archive` is what a disk that never fails has
  packed. `Scratch.told` is what is heard of it.
- `packingFiles` is what packing leaves on the disk: the file is kept only if all went well.
-/

namespace AgentTrial

/-- Goes on with the value of an ending. -/
def Ending.andThen {ε α β : Type} : Ending ε α → (α → Ending ε β) → Ending ε β
  | .value a, next => next a
  | .error e, _ => .error e
  | .crash p, _ => .crash p

namespace Provision

open FileSystem (Node Entries)

/-- The path and content of each entry of an archive. -/
abbrev Archive := List (String × List UInt8)

/-- How the local disk takes what is asked of it while an archive is packed: the temporary file is
created and opened again, each node is visited, each regular file is read and appended, and the
archive is finished. Errors are told by their texts. -/
structure Scratch where
  create : Ending String Unit
  reopen : Ending String Unit
  visit : List String → Ending String Unit
  append : List String → Ending String Unit
  finish : Ending String Unit
  /-- What is told of a crash of the task that packs. -/
  crashText : Crash → String

/-- The disk that never fails. -/
def Scratch.steady : Scratch where
  create := .value ()
  reopen := .value ()
  visit _ := .value ()
  append _ := .value ()
  finish := .value ()
  crashText := Crash.text

/-- The path of what names lead to from a directory. -/
def pathBelow (dir : String) (names : List String) : String := names.foldl Path.join dir

/-- The name in an archive of what lies at a path: the path relative to the directory that is packed,
or the path as it is where it does not start with that directory. -/
def entryName (dir path : String) : String :=
  match Path.relativeTo? dir path with
  | some names => "/".intercalate names
  | none => path

/-- The entry for what names lead to, if it is a regular file. -/
def entryOf? (dir : String) : List String × Node → Option (String × List UInt8)
  | (names, .file content) => some (entryName dir (pathBelow dir names), content)
  | _ => none

/-- The archive of a directory. -/
def archive (dir : String) (entries : Entries) : Archive := entries.walk.filterMap (entryOf? dir)

/-- Visits nodes, appends the regular files among them to an archive, and finishes it. -/
def fill (scratch : Scratch) (dir : String) : List (List String × Node) → Ending String Archive
  | [] => scratch.finish.andThen fun () => .value []
  | (names, node) :: rest =>
    (scratch.visit names).andThen fun () =>
      match entryOf? dir (names, node) with
      | some entry =>
        (scratch.append names).andThen fun () =>
          (fill scratch dir rest).andThen fun packed => .value (entry :: packed)
      | none => fill scratch dir rest

/-- Packs a directory. -/
def packing (scratch : Scratch) (dir : String) (entries : Entries) : Ending String Archive :=
  scratch.create.andThen fun () =>
    scratch.reopen.andThen fun () => fill scratch dir entries.walk

/-- What is told of how the task ended that packs. Its crash is an error to who waits for it. -/
def Scratch.told {α : Type} (scratch : Scratch) : Ending String α → Ending TrialError α
  | .value a => .value a
  | .error e => .error (.provision s!"failed to compress test directory: {e}")
  | .crash p => .error (.provision s!"compression task failed: {scratch.crashText p}")

/-- The temporary files on the disk after packing, of so many before. The file that is created is
removed again unless it is handed over with the archive. -/
def packingFiles (scratch : Scratch) (dir : String) (entries : Entries) (files : Nat) : Nat :=
  match scratch.create with
  | .value () =>
    let created := files + 1
    match scratch.reopen.andThen fun () => fill scratch dir entries.walk with
    | .value _ => created
    | _ => created - 1
  | _ => files

end Provision

end AgentTrial
