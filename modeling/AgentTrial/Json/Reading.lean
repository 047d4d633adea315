import AgentTrial.Json.Value

/-!
# JSON texts as far as they can be read

A reading is the value that a JSON text writes, with marks at the places where the text breaks off
or goes wrong. Whoever takes a value out of a reading meets its faults in the order of the text, and
faults in parts that are skipped over only matter as far as skipping notices them.

- `Reading` is what a reader makes of a text, `Reading.ofValue` the reading of a faultless text.
- `skip` passes over a part, `Reading.value` takes it whole.
- `Reading.mistyped` is the fault of finding another type than was asked for.
-/

namespace AgentTrial.Json

/-- What is wrong with a text: it is malformed, it ends too early, or it says something else than
what was asked for. -/
inductive Fault where
  | malformed
  | endOfInput
  | unfit
  deriving DecidableEq, Repr

/-- A quoted text: what it says, and whether its end was found. A text can be wrong in its escapes
and still have an end. -/
structure Quoted where
  text : Except Fault String
  ending : Except Fault Unit

mutual

/-- A value as far as it can be read. A broken value has one fault for whoever takes it and one for
whoever skips it. -/
inductive Reading where
  | null
  | bool (b : Bool)
  | number (n : Except Fault Number)
  | string (s : Quoted)
  | array (items : Items)
  | object (members : Members)
  | broken (taken skipped : Fault)

/-- The items of an array up to its end or a fault, which may stand after a comma. -/
inductive Items where
  | done
  | broken (fault : Fault) (afterComma : Bool)
  | cons (item : Reading) (rest : Items)

/-- The members of an object up to its end or a fault, which may stand after a comma. A key without
a value is an orphan; a stray value stands where a key is due. -/
inductive Members where
  | done
  | broken (fault : Fault) (afterComma : Bool)
  | orphan (key : Quoted) (fault : Fault)
  | stray (found : Reading)
  | cons (key : Quoted) (value : Reading) (rest : Members)

end

/-- A whole text: a value and what is wrong with the text after it. -/
structure Document where
  value : Reading
  ending : Except Fault Unit

/-- A faultless quoted text. -/
def Quoted.ofString (s : String) : Quoted := ⟨.ok s, .ok ()⟩

mutual

/-- The reading of a value that is written without a fault. -/
def Reading.ofValue : Value → Reading
  | .null => .null
  | .bool b => .bool b
  | .number n => .number (.ok n)
  | .string s => .string (.ofString s)
  | .array items => .array (Items.ofValues items)
  | .object members => .object (Members.ofMembers members)

def Items.ofValues : List Value → Items
  | [] => .done
  | item :: items => .cons (Reading.ofValue item) (Items.ofValues items)

def Members.ofMembers : List (String × Value) → Members
  | [] => .done
  | (key, value) :: members =>
    .cons (.ofString key) (Reading.ofValue value) (Members.ofMembers members)

end

mutual

/-- Passes over a value. -/
def Reading.skip : Reading → Except Fault Unit
  | .string s => s.ending
  | .array items => items.skip
  | .object members => members.skip
  | .broken _ fault => .error fault
  | _ => .ok ()

def Items.skip : Items → Except Fault Unit
  | .done => .ok ()
  | .broken fault _ => .error fault
  | .cons item rest =>
    match item.skip with
    | .ok () => rest.skip
    | .error fault => .error fault

def Members.skip : Members → Except Fault Unit
  | .done => .ok ()
  | .broken fault _ => .error fault
  | .stray _ => .error .malformed
  | .orphan key fault =>
    match key.ending with
    | .ok () => .error fault
    | .error fault => .error fault
  | .cons key value rest =>
    match key.ending with
    | .error fault => .error fault
    | .ok () =>
      match value.skip with
      | .ok () => rest.skip
      | .error fault => .error fault

end

mutual

/-- The value that is read, when brackets are nested at most `depth` deep. -/
def Reading.value (depth : Nat) : Reading → Except Fault Value
  | .null => .ok .null
  | .bool b => .ok (.bool b)
  | .number n => n.map .number
  | .string s => s.text.map .string
  | .array items =>
    match depth with
    | 0 => .error .malformed
    | depth + 1 => (items.values depth).map .array
  | .object members =>
    match depth with
    | 0 => .error .malformed
    | depth + 1 => (members.members depth).map .object
  | .broken fault _ => .error fault

def Items.values (depth : Nat) : Items → Except Fault (List Value)
  | .done => .ok []
  | .broken fault _ => .error fault
  | .cons item rest => do
    let item ← item.value depth
    let rest ← rest.values depth
    pure (item :: rest)

def Members.members (depth : Nat) : Members → Except Fault (List (String × Value))
  | .done => .ok []
  | .broken fault _ => .error fault
  | .stray _ => .error .malformed
  | .orphan key fault => do
    let _ ← key.text
    throw fault
  | .cons key value rest => do
    let key ← key.text
    let value ← value.value depth
    let rest ← rest.members depth
    pure ((key, value) :: rest)

end

/-- The fault of a value of another type than was asked for. A text or number is first read to its
end; of an array or object no more than the bracket is looked at. -/
def Reading.mistyped {α : Type} : Reading → Except Fault α
  | .number (.error fault) => .error fault
  | .string ⟨.error fault, _⟩ => .error fault
  | .broken fault _ => .error fault
  | _ => .error .unfit

end AgentTrial.Json
