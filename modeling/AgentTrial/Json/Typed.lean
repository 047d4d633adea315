import AgentTrial.Dict
import AgentTrial.Json.Reading

/-!
# Typed values from JSON readings

- `bool`, `text`, `real` and `optional` take a value of a type out of a reading.
- `variant` takes one of some words, bare or as the only key of an object.
- `dict` takes an object with values of one type.
-/

namespace AgentTrial.Json.Reading

/-- A truth value. -/
def asBool : Reading → Except Fault Bool
  | .bool b => .ok b
  | r => r.mistyped

/-- A text. -/
def asText : Reading → Except Fault String
  | .string s => s.text
  | r => r.mistyped

/-- A number in double precision. -/
def asReal : Reading → Except Fault Binary64
  | .number n => n.map fun
    | .whole n => if n < 0 then (Binary64.ofNat n.natAbs).neg else .ofNat n.natAbs
    | .real x => x
  | r => r.mistyped

/-- A value that may be null. -/
def optional {α : Type} (take : Reading → Except Fault α) : Reading → Except Fault (Option α)
  | .null => .ok none
  | r => (take r).map some

/-- Null. -/
def asNull : Reading → Except Fault Unit
  | .null => .ok ()
  | r => r.mistyped

/-- The meaning of a word. -/
def meaning {α : Type} (words : List (String × α)) (word : String) : Except Fault α :=
  match words.find? (·.1 = word) with
  | some (_, value) => .ok value
  | none => .error .unfit

/-- One of some words, as a text or as the only key of an object whose value is null. -/
def variant {α : Type} (words : List (String × α)) : Reading → Except Fault α
  | .string s => s.text.bind (meaning words)
  | .object members =>
    match members with
    | .done => .error .malformed
    | .broken fault _ => .error fault
    | .stray found => found.mistyped
    | .orphan key fault => do
      let _ ← key.text.bind (meaning words)
      throw fault
    | .cons key value rest => do
      let found ← key.text.bind (meaning words)
      value.asNull
      match rest with
      | .done => pure found
      | .broken fault false => throw fault
      | _ => throw .malformed
  | .broken fault _ => .error fault
  | _ => .error .malformed

/-- Bindings added one by one to a dictionary. -/
def addMembers {α : Type} (take : Reading → Except Fault α) (d : Dict α) :
    Members → Except Fault (Dict α)
  | .done => .ok d
  | .broken fault _ => .error fault
  | .stray _ => .error .malformed
  | .orphan key fault => do
    let _ ← key.text
    throw fault
  | .cons key value rest => do
    let key ← key.text
    let value ← take value
    addMembers take (d.insert key value) rest

/-- An object with values of one type; of two values of one key the later counts. -/
def dict {α : Type} (take : Reading → Except Fault α) : Reading → Except Fault (Dict α)
  | .object members => addMembers take .empty members
  | r => r.mistyped

end AgentTrial.Json.Reading

namespace AgentTrial.Json

/-- What a whole text says, with nothing but blanks after it. -/
def Document.take {α : Type} (d : Document) (take : Reading → Except Fault α) : Except Fault α := do
  let a ← take d.value
  d.ending
  pure a

/-! ## Values that have been read whole -/

namespace Value

/-- A truth value. -/
def asBool : Value → Except Fault Bool
  | .bool b => .ok b
  | _ => .error .unfit

/-- A text. -/
def asText : Value → Except Fault String
  | .string s => .ok s
  | _ => .error .unfit

/-- A value that may be null. -/
def optional {α : Type} (take : Value → Except Fault α) : Value → Except Fault (Option α)
  | .null => .ok none
  | v => (take v).map some

/-- One of some words, as a text or as the only key of an object whose value is null or an empty
object. -/
def variant {α : Type} (words : List (String × α)) : Value → Except Fault α
  | .string s => Reading.meaning words s
  | .object [(key, value)] => do
    let found ← Reading.meaning words key
    match value with
    | .null => pure found
    | .object [] => pure found
    | _ => throw .unfit
  | _ => .error .unfit

/-- An object with values of one type; of two values of one key the later counts. -/
def dict {α : Type} (take : Value → Except Fault α) : Value → Except Fault (Dict α)
  | .object members => do
    let bindings ← members.mapM fun (key, value) => do pure (key, ← take value)
    pure (Dict.ofList bindings)
  | _ => .error .unfit

/-- The value of a member that is given at most once. -/
def single? (members : List (String × Value)) (name : String) : Except Fault (Option Value) :=
  match members.filter (·.1 = name) with
  | [] => .ok none
  | [(_, value)] => .ok (some value)
  | _ => .error .unfit

/-- The value of a member that is given once. -/
def required {α : Type} (members : List (String × Value)) (name : String)
    (take : Value → Except Fault α) : Except Fault α := do
  match ← single? members name with
  | some value => take value
  | none => throw .unfit

/-- The value of a member that may be left out or null. -/
def leftOut {α : Type} (members : List (String × Value)) (name : String)
    (take : Value → Except Fault α) : Except Fault (Option α) := do
  match ← single? members name with
  | some value => optional take value
  | none => pure none

end Value

end AgentTrial.Json
