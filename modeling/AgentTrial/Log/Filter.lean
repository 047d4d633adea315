import AgentTrial.Log
import AgentTrial.Text.Blank
import AgentTrial.Text.Digit

/-!
# Log filters

Which events of a run are shown. A filter is a list of directives between commas: a level, the name
of a part, or a name with a level.

- `Directive.ofText` reads a directive.
- `Filter.ofText?` reads a whole filter, `Filter.ofTextLenient` leaves out what does not read.
- `Filter.shows` decides on an event: of the directives for its part the longest name counts, and of
  those the last.
-/

namespace AgentTrial.Log

/-- A directive: events of the parts whose names begin with `target` are shown up to the rank
`bound`. -/
structure Directive where
  target : Option (List Char) := none
  bound : Nat
  /-- Whether it is for events inside a span alone. No event here is inside one. -/
  spanned : Bool := false
  deriving DecidableEq, Repr

/-- Why a directive does not read. -/
inductive Directive.Fault where
  | form
  | level
  deriving DecidableEq, Repr

def Directive.Fault.text : Directive.Fault → String
  | .form => "invalid filter directive"
  | .level => "error parsing level filter: expected one of \"off\", \"error\", \"warn\", " ++
      "\"info\", \"debug\", \"trace\", or a number 0-5"

namespace Directive

/-- The rank up to which everything is shown. -/
def everything : Nat := Level.trace.rank

/-- The rank that a text stands for: a number up to five, or the name of a level in any case. -/
def rank? (text : List Char) : Option Nat :=
  match (Text.boundedNat? (Nat.pow 2 64) text).filter (· ≤ everything) with
  | some n => some n
  | none =>
    match String.ofList (text.map Char.toLower) with
    | "" => some Level.error.rank
    | "off" => some 0
    | "error" => some Level.error.rank
    | "warn" => some Level.warn.rank
    | "info" => some Level.info.rank
    | "debug" => some Level.debug.rank
    | "trace" => some Level.trace.rank
    | _ => none

/-- Whether a directive may begin with a character. -/
def isInitial (c : Char) : Bool :=
  c.isAlphanum || c == '-' || c == ':' || c == '_' || 128 ≤ c.toNat

/-- What follows the brackets of a span; `inField` while its fields are read, of which `read` says
whether the current one has a character. -/
def afterSpan (inField read : Bool) : List Char → Option (List Char)
  | [] => none
  | c :: rest =>
    if inField then
      if c = '}' then
        if read then
          match rest with
          | ']' :: rest => some rest
          | _ => none
        else none
      else afterSpan true true rest
    else if c = ']' then some rest
    else if c = '{' then afterSpan true false rest
    else afterSpan false false rest

/-- The rank after an equals sign; all ranks where it says nothing. -/
def boundOf (text : List Char) : Except Fault Nat :=
  if text.isEmpty then .ok everything
  else match rank? text with
    | some n => .ok n
    | none => .error .level

/-- Reads a directive. Blanks around it do not count for its form, but they do for its names and
places: those are taken from the text as it is. -/
def ofText (raw : List Char) : Except Fault Directive :=
  let text := Text.trimChars raw
  let name := text.takeWhile fun c => c ≠ '=' ∧ c ≠ '['
  let fromRaw (rest : List Char) := raw.drop (text.length - rest.length)
  let target := raw.take name.length
  match text, text.drop name.length with
  | '[' :: _, _ :: rest => spanned none (afterSpan false false rest) fromRaw
  | c :: _, [] =>
    if isInitial c then
      match rank? raw with
      | some n => .ok { bound := n }
      | none => .ok { target := some raw, bound := everything }
    else .error .form
  | c :: _, d :: rest =>
    if isInitial c then
      if d = '=' then (boundOf (fromRaw rest)).map fun n => { target := some target, bound := n }
      else spanned (some target) (afterSpan false false rest) fromRaw
    else .error .form
  | [], _ => .error .form
where
  /-- A directive for a span, from what follows its brackets. -/
  spanned (target : Option (List Char)) (rest : Option (List Char))
      (fromRaw : List Char → List Char) : Except Fault Directive :=
    match rest with
    | some [] => .ok { target, bound := everything, spanned := true }
    | some ('=' :: rest) =>
      (boundOf (fromRaw rest)).map fun n => { target, bound := n, spanned := true }
    | _ => .error .form

/-- How specific a directive is: the length of its name, and least without one. -/
def weight (d : Directive) : Nat := (d.target.map (·.length + 1)).getD 0

/-- Whether a directive is for an event. -/
def isFor (e : Event) (d : Directive) : Bool :=
  !d.spanned && (d.target.getD []).isPrefixOf e.source.target.toList

end Directive

/-- The directives of a filter. -/
abbrev Filter := List Directive

namespace Filter

/-- The filter of some directives; errors are shown where there are none. -/
def ofDirectives (ds : List Directive) : Filter :=
  if ds.isEmpty then [{ bound := Level.error.rank }] else ds

/-- The directives of a text, as they are written. -/
def pieces (text : String) : List (List Char) :=
  (text.toList.splitOn ',').filter (!·.isEmpty)

/-- The filter that a text writes. -/
def ofText? (text : String) : Option Filter :=
  match (pieces text).mapM Directive.ofText with
  | .ok ds => some (ofDirectives ds)
  | .error _ => none

/-- What is told of a directive that does not read. -/
def complaint (piece : List Char) (fault : Directive.Fault) : String :=
  s!"ignoring `{String.ofList piece}`: {fault.text}\n"

/-- The filter of those directives of a text that read, and what is told of the others. -/
def ofTextLenient (text : String) : Filter × String :=
  let read := (pieces text).map fun piece => (piece, Directive.ofText piece)
  let directives := read.filterMap fun (_, d) => d.toOption
  let complaints := read.filterMap fun (piece, d) =>
    match d with
    | .ok _ => none
    | .error fault => some (complaint piece fault)
  (ofDirectives directives, String.join complaints)

/-- The filter from outside where there is one, else the one that the arguments write; and what is
told of directives that do not read. -/
def choose (fromOutside : Option String) (fromArguments : String) : Filter × String :=
  match fromOutside with
  | none => ofTextLenient fromArguments
  | some text =>
    match ofText? text with
    | some filter => (filter, "")
    | none => ofTextLenient text

/-- The directive that decides on an event. -/
def decisive? (filter : Filter) (e : Event) : Option Directive :=
  (filter.filter (Directive.isFor e)).foldl (fun best d =>
    match best with
    | none => some d
    | some b => if b.weight ≤ d.weight then some d else some b) none

/-- Whether an event is shown. -/
def shows (filter : Filter) (e : Event) : Bool :=
  match filter.decisive? e with
  | some d => e.level.rank ≤ d.bound
  | none => false

end Filter

end AgentTrial.Log
