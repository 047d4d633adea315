/-!
# Filling templates

A template is a text with slots: literal words such as `{task}`. Filling replaces every occurrence
of one slot, from left to right and without overlap, and never looks into what it has put in.

- `pieces` cuts a template at the occurrences of a slot.
- `fill` joins the pieces with a value.
-/

namespace AgentTrial.Text.Template

/-- The pieces of a text between the occurrences of `slot`, where `current` holds what has been
read of the current piece, last character first. An empty slot occurs nowhere. -/
def piecesFrom (slot current : List Char) : List Char → List (List Char)
  | [] => [current.reverse]
  | c :: cs =>
    if slot ≠ [] ∧ slot.isPrefixOf (c :: cs) then
      current.reverse :: piecesFrom slot [] ((c :: cs).drop slot.length)
    else piecesFrom slot (c :: current) cs
termination_by cs => cs.length
decreasing_by
  · rename_i h
    have : 0 < slot.length := List.length_pos_iff.2 h.1
    simp only [List.length_drop, List.length_cons]
    omega
  · simp

/-- The pieces of a template between the occurrences of a slot. -/
def pieces (slot template : String) : List String :=
  (piecesFrom slot.toList [] template.toList).map String.ofList

/-- A template with `value` in place of every occurrence of `slot`. -/
def fill (slot value template : String) : String :=
  value.intercalate (pieces slot template)

/-- Whether a slot occurs in a template. -/
def occurs (slot template : String) : Bool :=
  slot.isEmpty || 1 < (pieces slot template).length

end AgentTrial.Text.Template
