import AgentTrial.Yaml.Lexer

/-!
# YAML documents

The tree that the tokens of a text write, with its anchors and aliases.

- `Node` is a scalar, a sequence, a mapping or an alias of an anchored node.
- `Document` is a tree with its anchored nodes; `Document.resolve` follows an alias.
- `Document.ofText?` reads a text that holds one document, or none at all.
-/

namespace AgentTrial.Yaml

/-- A node of a document. -/
inductive Node where
  | scalar (text : String) (tag : Option String) (style : Style)
  | sequence (tag : Option String) (items : List Node)
  | mapping (tag : Option String) (entries : List (Node × Node))
  | alias (anchor : Nat)

instance : Inhabited Node := ⟨.alias 0⟩

/-- The scalar that stands where no node is written. -/
def Node.absent : Node := .scalar "" none .plain

/-- A document: its root, if it has one, and the anchored nodes in the order of their starts, each
with the number that aliases know it by. -/
structure Document where
  root : Option Node
  anchored : List (Nat × Node)

/-- The node that an alias stands for: of several with its number, the last. -/
def Document.resolve (d : Document) : Node → Node
  | .alias anchor => ((d.anchored.reverse.find? (·.1 = anchor)).map (·.2)).getD .absent
  | node => node

/-- What is known while tokens are read: the tokens left, the tag handles, the number of each anchor
name, and the anchored nodes so far. -/
structure Reading where
  tokens : List Token
  handles : List (String × String)
  anchors : List (String × Nat)
  anchored : Array (Nat × Node)

/-- A step of reading; none for malformed tokens. -/
abbrev Reader := StateT Reading Option

namespace Reader

/-- Gives up. -/
def malformed {α : Type} : Reader α := fun _ => none

/-- The next token. -/
def peek : Reader (Option Token) := do return (← get).tokens.head?

/-- Passes the next token. -/
def skip : Reader Unit := modify fun r => { r with tokens := r.tokens.tail }

/-- Passes the next token if it is a given one, and says whether it is. -/
def skipIf (token : Token) : Reader Bool := do
  if (← peek) = some token then
    skip
    return true
  else return false

/-- Passes a given token. -/
def expect (token : Token) : Reader Unit := do
  if ← skipIf token then pure () else malformed

/-- Whether one of some tokens comes next, or none at all. -/
def atAny (tokens : List Token) : Reader Bool := do
  match ← peek with
  | some token => return tokens.contains token
  | none => return true

/-- Gives a node that starts here a number under a name, and the place of the node among those that
are anchored. A name that is used again moves to its new node. -/
def openAnchor (name : String) : Reader Nat := do
  let r ← get
  let number := r.anchors.length
  let anchors := (name, number) :: r.anchors.filter (·.1 ≠ name)
  set { r with anchors := anchors, anchored := r.anchored.push (number, .absent) }
  return r.anchored.size

/-- Puts a node to its place among those that are anchored. -/
def closeAnchor (place : Option Nat) (node : Node) : Reader Node := do
  match place with
  | some place =>
    modify fun r =>
      { r with anchored := r.anchored.modify place fun (number, _) => (number, node) }
  | none => pure ()
  return node

/-- The tag that a handle and a suffix write. -/
def tagOf (handle suffix : String) : Reader String := do
  if handle.isEmpty then return suffix
  else match (← get).handles.find? (·.1 = handle) with
    | some (_, expansion) => return expansion ++ suffix
    | none => malformed

/-- Reads the anchor and the tag before a node, in either order. -/
def properties : Reader (Option String × Option String) := do
  let anchor ← readAnchor
  let tag ← readTag
  let anchor ← if anchor.isNone ∧ tag.isSome then readAnchor else pure anchor
  return (anchor, tag)
where
  readAnchor : Reader (Option String) := do
    match ← peek with
    | some (.anchor name) =>
      skip
      return some name
    | _ => return none
  readTag : Reader (Option String) := do
    match ← peek with
    | some (.tag handle suffix) =>
      skip
      return some (← tagOf handle suffix)
    | _ => return none

mutual

/-- Reads a node. `block` says whether it may be a block, `indentless` whether it may be a sequence
whose entries stand at the column of the mapping around it. -/
def node (fuel : Nat) (block indentless : Bool) : Reader Node := do
  match fuel with
  | 0 => malformed
  | fuel + 1 =>
    match ← peek with
    | some (.alias name) =>
      skip
      match (← get).anchors.find? (·.1 = name) with
      | some (_, number) => return .alias number
      | none => malformed
    | _ =>
      let (anchor, tag) ← properties
      let place ← match anchor with
        | some name => do pure (some (← openAnchor name))
        | none => pure none
      let token ← peek
      let node ←
        if indentless ∧ token = some .blockEntry then
          pure (.sequence tag (← indentlessEntries fuel))
        else match token with
          | some (.scalar text style) => do
            skip
            let tag := if tag = some "!" then none else tag
            pure (Node.scalar text tag style)
          | some .flowSequenceStart => do
            skip
            pure (.sequence tag (← flowItems fuel true))
          | some .flowMappingStart => do
            skip
            pure (.mapping tag (← flowEntries fuel true))
          | some .blockSequenceStart =>
            if block then do
              skip
              pure (.sequence tag (← blockItems fuel))
            else malformed
          | some .blockMappingStart =>
            if block then do
              skip
              pure (.mapping tag (← blockEntries fuel))
            else malformed
          | _ => if anchor.isSome ∨ tag.isSome then pure (.scalar "" tag .plain) else malformed
      closeAnchor place node

/-- Reads a node, or none where one of some tokens comes next. -/
def nodeUnless (fuel : Nat) (ends : List Token) (block indentless : Bool) : Reader Node := do
  match fuel with
  | 0 => malformed
  | fuel + 1 => if ← atAny ends then return .absent else node fuel block indentless

/-- Reads the entries of a block sequence and its end. -/
def blockItems (fuel : Nat) : Reader (List Node) := do
  match fuel with
  | 0 => malformed
  | fuel + 1 =>
    if ← skipIf .blockEntry then
      let item ← nodeUnless fuel [.blockEntry, .blockEnd] true false
      return item :: (← blockItems fuel)
    else
      expect .blockEnd
      return []

/-- Reads the entries of a sequence that has no indentation of its own, which has no end token. -/
def indentlessEntries (fuel : Nat) : Reader (List Node) := do
  match fuel with
  | 0 => malformed
  | fuel + 1 =>
    if ← skipIf .blockEntry then
      let item ← nodeUnless fuel [.blockEntry, .key, .value, .blockEnd] true false
      return item :: (← indentlessEntries fuel)
    else return []

/-- Reads the entries of a block mapping and its end. -/
def blockEntries (fuel : Nat) : Reader (List (Node × Node)) := do
  match fuel with
  | 0 => malformed
  | fuel + 1 =>
    if ← skipIf .key then
      let key ← nodeUnless fuel [.key, .value, .blockEnd] true true
      let value ←
        if ← skipIf .value then nodeUnless fuel [.key, .value, .blockEnd] true true
        else pure .absent
      return (key, value) :: (← blockEntries fuel)
    else
      expect .blockEnd
      return []

/-- Reads the items of a bracketed sequence and its end. `first` says whether no item has been read
yet, so that no comma is due. -/
def flowItems (fuel : Nat) (first : Bool) : Reader (List Node) := do
  match fuel with
  | 0 => malformed
  | fuel + 1 =>
    if ← skipIf .flowSequenceEnd then return []
    else
      if first then pure () else expect .flowEntry
      if ← skipIf .key then
        let pair ← flowPair fuel
        return pair :: (← flowItems fuel false)
      else if ← skipIf .flowSequenceEnd then return []
      else
        let item ← node fuel false false
        return item :: (← flowItems fuel false)

/-- Reads a pair that stands as an item, after its key mark. Where no key is written, the token in
its place is passed over. -/
def flowPair (fuel : Nat) : Reader Node := do
  match fuel with
  | 0 => malformed
  | fuel + 1 =>
    let key ←
      if ← atAny [.value, .flowEntry, .flowSequenceEnd] then do
        skip
        pure Node.absent
      else node fuel false false
    let value ←
      if ← skipIf .value then nodeUnless fuel [.flowEntry, .flowSequenceEnd] false false
      else pure .absent
    return .mapping none [(key, value)]

/-- Reads the entries of a bracketed mapping and its end. -/
def flowEntries (fuel : Nat) (first : Bool) : Reader (List (Node × Node)) := do
  match fuel with
  | 0 => malformed
  | fuel + 1 =>
    if ← skipIf .flowMappingEnd then return []
    else
      if first then pure () else expect .flowEntry
      if ← skipIf .key then
        let key ← nodeUnless fuel [.value, .flowEntry, .flowMappingEnd] false false
        let value ←
          if ← skipIf .value then nodeUnless fuel [.flowEntry, .flowMappingEnd] false false
          else pure .absent
        return (key, value) :: (← flowEntries fuel false)
      else if ← skipIf .flowMappingEnd then return []
      else
        let key ← node fuel false false
        return (key, .absent) :: (← flowEntries fuel false)

end

/-- The tag handles that need no directive. -/
def defaultHandles : List (String × String) := [("!", "!"), ("!!", "tag:yaml.org,2002:")]

/-- Reads directives, each of which may be given once. -/
def directives (fuel : Nat) (versioned : Bool) : Reader Unit := do
  match fuel with
  | 0 => malformed
  | fuel + 1 =>
    match ← peek with
    | some (.versionDirective major minor) =>
      if versioned ∨ major ≠ 1 ∨ ¬ (minor = 1 ∨ minor = 2) then malformed
      else
        skip
        directives fuel true
    | some (.tagDirective handle expansion) =>
      if (← get).handles.any (·.1 = handle) then malformed
      else
        skip
        modify fun r => { r with handles := (handle, expansion) :: r.handles }
        directives fuel versioned
    | _ => pure ()

/-- Reads the content of a document after its start marker. -/
def content (fuel : Nat) : Reader Node := do
  match ← peek with
  | none => return .absent
  | some .documentStart => return .absent
  | some .documentEnd => return .absent
  | some (.versionDirective _ _) => return .absent
  | some (.tagDirective _ _) => return .absent
  | some _ => node fuel true false

/-- Reads the only document of a text, or none. -/
def document (fuel : Nat) : Reader (Option Node) := do
  match ← peek with
  | none => return none
  | some token =>
    directives fuel false
    let explicit : Bool := match token with
      | .documentStart => true
      | .versionDirective _ _ => true
      | .tagDirective _ _ => true
      | _ => false
    modify fun r => { r with
      handles := r.handles ++ defaultHandles.filter fun h => !r.handles.any (·.1 = h.1) }
    let root ←
      if explicit then do
        expect .documentStart
        content fuel
      else node fuel true false
    if (← get).tokens.all (· = .documentEnd) then return some root else malformed

end Reader

/-- The only document of a text; none for a text that is malformed or holds several. -/
def Document.ofText? (text : String) : Option Document := do
  let tokens ← tokens? text
  let (root, r) ← (Reader.document (4 * tokens.length + 8)).run ⟨tokens, [], [], #[]⟩
  pure ⟨root, r.anchored.toList⟩

end AgentTrial.Yaml
