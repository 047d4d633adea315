import AgentTrial.Dict
import AgentTrial.Yaml.Node

/-!
# Values from YAML documents

What the nodes of a document say when a text, a number, a switch, a list or a record is asked for.
Each reading gives `none` for a node that says something else.

- `text?`, `flag?`, `natural?` and `choice?` read scalars, `optional?` one that may be null.
- `list?` and `dict?` read collections, `Record` the fields of a record.
-/

namespace AgentTrial.Yaml

/-- A reading of the nodes of a document. -/
abbrev Decoder (α : Type) := Document → Node → Option α

/-- The tags of the types that scalars can have. -/
def nullTag : String := "tag:yaml.org,2002:null"

def boolTag : String := "tag:yaml.org,2002:bool"

def intTag : String := "tag:yaml.org,2002:int"

/-- Any scalar as a text. -/
def text? : Decoder String := fun d n =>
  match d.resolve n with
  | .scalar text _ _ => some text
  | _ => none

/-- The text of a scalar that may stand for a value of a type: one that is plain, or a literal block
with the tag of the type. -/
def typedText? (typeTag : String) : Decoder String := fun d n =>
  match d.resolve n with
  | .scalar text _ .plain => some text
  | .scalar text (some tag) .literal => if tag = typeTag then some text else none
  | _ => none

/-- A switch. -/
def flag? : Decoder Bool := fun d n =>
  match typedText? boolTag d n with
  | some text =>
    if ["true", "True", "TRUE"].contains text then some true
    else if ["false", "False", "FALSE"].contains text then some false
    else none
  | none => none

/-- The value of a digit in a base of at most sixteen. -/
def digit? (base : Nat) (c : Char) : Option Nat := (hexValue? c).filter (· < base)

/-- The number below `bound` that digits of a base write, after an optional plus sign. -/
def inBase? (base bound : Nat) (cs : List Char) : Option Nat :=
  if cs = [] then none
  else (cs.foldlM (fun n c => (digit? base c).map (n * base + ·)) 0).filter (· < bound)

/-- A natural number below `bound`, in decimal or after `0x`, `0o` or `0b`. More than one decimal
digit after a leading zero is no number. -/
def naturalOfText? (bound : Nat) (text : String) : Option Nat :=
  let cs := match text.toList with
    | '+' :: cs => cs
    | cs => cs
  match cs with
  | '0' :: 'x' :: rest => inBase? 16 bound rest
  | '0' :: 'o' :: rest => inBase? 8 bound rest
  | '0' :: 'b' :: rest => inBase? 2 bound rest
  | '0' :: _ :: _ => none
  | _ => inBase? 10 bound cs

/-- A natural number below `bound`. -/
def natural? (bound : Nat) : Decoder Nat := fun d n =>
  (typedText? intTag d n).bind (naturalOfText? bound)

/-- Whether a text is null. -/
def isNullText (text : String) : Bool := ["null", "Null", "NULL", "~"].contains text

/-- One of some words, as a scalar or as a tag on nothing. -/
def choice? {α : Type} (choices : List (String × α)) : Decoder α := fun d n =>
  let named (word : String) : Option α := (choices.find? (·.1 = word)).map (·.2)
  match d.resolve n with
  | .scalar text (some tag) style =>
    match tag.toList with
    | '!' :: word =>
      if style = .plain ∧ (text = "" ∨ isNullText text) then named (String.ofList word) else none
    | _ => named text
  | .scalar text none _ => named text
  | _ => none

/-- A value that may be null. -/
def optional? {α : Type} (decode : Decoder α) : Decoder (Option α) := fun d n =>
  match d.resolve n with
  | .scalar text tag .plain =>
    match tag with
    | none => if text = "" ∨ isNullText text then some none else (decode d n).map some
    | some tag =>
      if tag = nullTag then (if isNullText text then some none else none)
      else (decode d n).map some
  | _ => (decode d n).map some

/-- Whether a node is a scalar with nothing written. -/
def isBlankScalar : Node → Bool
  | .scalar "" _ .plain => true
  | _ => false

/-- A list. Nothing written is an empty one. -/
def list? {α : Type} (decode : Decoder α) : Decoder (List α) := fun d n =>
  match d.resolve n with
  | .sequence _ items => items.mapM (decode d)
  | node => if isBlankScalar node then some [] else none

/-- The entries of a mapping with their keys as texts. Nothing written is an empty one. -/
def entries? : Decoder (List (String × Node)) := fun d n =>
  match d.resolve n with
  | .mapping _ entries => entries.mapM fun (key, value) => (text? d key).map fun key => (key, value)
  | node => if isBlankScalar node then some [] else none

/-- A dictionary; of two values of one key the later counts. -/
def dict? {α : Type} (decode : Decoder α) : Decoder (Dict α) := fun d n => do
  let entries ← entries? d n
  let bindings ← entries.mapM fun (key, value) => (decode d value).map fun value => (key, value)
  pure (Dict.ofList bindings)

/-- The entries of a mapping that stands for a record. -/
structure Record where
  document : Document
  entries : List (String × Node)

/-- The record that a node writes, each of whose known fields is given at most once. -/
def record? (known : List String) : Decoder Record := fun d n => do
  let entries ← entries? d n
  if known.all fun name => (entries.filter (·.1 = name)).length ≤ 1 then pure ⟨d, entries⟩ else none

/-- A field of a record, or its default where it is not given. -/
def Record.field {α : Type} (r : Record) (name : String) (decode : Decoder α) (default : α) :
    Option α :=
  match r.entries.find? (·.1 = name) with
  | some (_, node) => decode r.document node
  | none => some default

/-- What a text says as a whole. A text without a document counts as one with nothing written. -/
def decode? {α : Type} (decode : Decoder α) (text : String) : Option α := do
  let d ← Document.ofText? text
  decode d (d.root.getD .absent)

end AgentTrial.Yaml
