import AgentTrial.Error
import AgentTrial.Text.Blank

/-!
# Verdict blocks

A verdict is what stands between a start marker and the first end marker after it. Blocks are found
from left to right and do not overlap.

- `cut` splits a text at the first occurrence of a marker.
- `blocks` lists the blocks of an output, `onlyBlock` asks for exactly one.
-/

namespace AgentTrial.Verdict

/-- The text before the first occurrence of `marker` and the text after it. `before` holds what has
been passed, last character first. -/
def cutFrom (marker before : List Char) : List Char → Option (List Char × List Char)
  | [] => if marker = [] then some (before.reverse, []) else none
  | c :: cs =>
    if marker.isPrefixOf (c :: cs) then
      some (before.reverse, (c :: cs).drop marker.length)
    else cutFrom marker (c :: before) cs

/-- The text before the first occurrence of a marker and the text after it. -/
def cut (marker cs : List Char) : Option (List Char × List Char) :=
  cutFrom marker [] cs

/-- The inside of the first block and the text after it. -/
def firstBlock (start stop cs : List Char) : Option (List Char × List Char) :=
  match cut start cs with
  | some (_, rest) => cut stop rest
  | none => none

/-- The insides of the blocks of a text, `fuel` at most. Where both markers are empty there is an
empty block at every place. -/
def blocksWithin (start stop : List Char) : Nat → List Char → List (List Char)
  | 0, _ => []
  | fuel + 1, cs =>
    match firstBlock start stop cs with
    | none => []
    | some (inner, rest) =>
      if start = [] ∧ stop = [] then
        match rest with
        | [] => [inner]
        | _ :: rest => inner :: blocksWithin start stop fuel rest
      else inner :: blocksWithin start stop fuel rest

/-- The insides of the blocks of a text. -/
def blocks (start stop cs : List Char) : List (List Char) :=
  blocksWithin start stop (cs.length + 1) cs

/-- The inside of the only block of a text, without the blanks around it. -/
def onlyBlock (start stop output : String) : Except TrialError (List Char) :=
  match blocks start.toList stop.toList output.toList with
  | [] => .error (.parse "no verdict block in output")
  | [inner] => .ok (Text.trimChars inner)
  | _ => .error (.parse "multiple verdict blocks in output")

end AgentTrial.Verdict
