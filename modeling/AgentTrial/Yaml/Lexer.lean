import AgentTrial.Yaml.Token

/-!
# Reading YAML tokens

A word can turn out to be the key of a mapping only when a colon follows it. So each place where a
key may have started is remembered, and the tokens that open the mapping are put in there later.

- `Candidate` is a place where a key may have started.
- `Lexer.step` reads one token, `tokens?` reads all of them.
-/

namespace AgentTrial.Yaml

/-- A place where a key may have started. It is `required` where the text would be malformed if it
were none. -/
structure Candidate where
  required : Bool
  position : Nat
  index : Nat
  line : Nat
  column : Nat

/-- The longest key that needs no mark of its own, in characters. -/
def maxKeyLength : Nat := 1024

/-- What has been read: the place, the tokens, whether a key may start here, the candidates of each
open bracket and of the text around them, and the columns of the open blocks, innermost first. -/
structure Lexer where
  cursor : Cursor
  tokens : Array Token := #[]
  keyAllowed : Bool := true
  candidates : List (Option Candidate) := [none]
  indent : Int := -1
  outerIndents : List Int := []

namespace Lexer

/-- Whether the place is inside brackets. -/
def inFlow (l : Lexer) : Bool := 1 < l.candidates.length

/-- Adds a token that ends at a place. -/
def push (l : Lexer) (token : Token) (c : Cursor) : Lexer :=
  { l with tokens := l.tokens.push token, cursor := c }

/-- Whether a candidate can no longer be a key. -/
def isStale (c : Cursor) (k : Candidate) : Bool :=
  k.line < c.line || k.index + maxKeyLength < c.index

/-- Drops the candidates that can no longer be keys. A required one may not be dropped. -/
def dropStale (l : Lexer) : Option Lexer :=
  let stale (k : Option Candidate) : Bool := match k with
    | some k => isStale l.cursor k
    | none => false
  let required (k : Option Candidate) : Bool := match k with
    | some k => k.required
    | none => false
  if l.candidates.any fun k => stale k && required k then none
  else some { l with candidates := l.candidates.map fun k => if stale k then none else k }

/-- Drops the innermost candidate. A required one may not be dropped. -/
def dropCandidate (l : Lexer) : Option Lexer :=
  match l.candidates with
  | some k :: rest => if k.required then none else some { l with candidates := none :: rest }
  | _ => some l

/-- Remembers this place as a candidate, if a key may start here. -/
def saveCandidate (l : Lexer) : Option Lexer :=
  if l.keyAllowed then do
    let l ← l.dropCandidate
    let k : Candidate :=
      { required := !l.inFlow && l.indent == l.cursor.column
        position := l.tokens.size
        index := l.cursor.index
        line := l.cursor.line
        column := l.cursor.column }
    pure { l with candidates := some k :: l.candidates.tail }
  else some l

/-- Opens a block at a column deeper than the current one, with its token at a position. -/
def openBlock (l : Lexer) (column : Nat) (position : Nat) (token : Token) : Lexer :=
  if l.inFlow ∨ (column : Int) ≤ l.indent then l
  else { l with
    tokens := l.tokens.insertIdxIfInBounds position token
    outerIndents := l.indent :: l.outerIndents
    indent := column }

/-- The open blocks left after those deeper than a column are closed, and how many are closed. -/
def closing (column : Int) (indent : Int) : List Int → Nat × Int × List Int
  | [] => (0, indent, [])
  | outer :: rest =>
    if column < indent then
      let (count, indent, rest) := closing column outer rest
      (count + 1, indent, rest)
    else (0, indent, outer :: rest)

/-- Closes the blocks deeper than a column. -/
def closeBlocks (l : Lexer) (column : Int) : Lexer :=
  if l.inFlow then l
  else
    let (count, indent, outer) := closing column l.indent l.outerIndents
    { l with
      tokens := l.tokens ++ Array.replicate count Token.blockEnd
      indent := indent
      outerIndents := outer }

/-- Moves past blanks, comments and line breaks. After a line break outside brackets a key may
start. -/
def skipToToken : Nat → Lexer → Lexer
  | 0, l => l
  | fuel + 1, l =>
    let c := l.cursor
    let c := if c.column == 0 && c.sees 0 byteOrderMark then c.advance 1 else c
    let c := c.skipWhile fun d => d == ' ' || ((l.inFlow || !l.keyAllowed) && d == '\t')
    let c := c.skipComment
    if c.seesAny 0 isBreak then
      skipToToken fuel { l with cursor := c.takeBreak.2, keyAllowed := l.keyAllowed || !l.inFlow }
    else { l with cursor := c }

/-- Reads a directive or a marker between documents, before which all blocks are closed. -/
def boundary (l : Lexer) (token : Token) (c : Cursor) : Option Lexer := do
  let l ← (l.closeBlocks (-1)).dropCandidate
  pure ({ l with keyAllowed := false }.push token c)

/-- Opens brackets. -/
def openFlow (l : Lexer) (token : Token) : Option Lexer := do
  let l ← l.saveCandidate
  pure ({ l with candidates := none :: l.candidates, keyAllowed := true }.push token
    (l.cursor.advance 1))

/-- Closes brackets. -/
def closeFlow (l : Lexer) (token : Token) : Option Lexer := do
  let l ← l.dropCandidate
  let candidates := if l.inFlow then l.candidates.tail else l.candidates
  pure ({ l with candidates := candidates, keyAllowed := false }.push token (l.cursor.advance 1))

/-- Reads an entry mark, a key mark or a value mark that stands for itself. Outside brackets it may
open a block, where one may start. -/
def mark (l : Lexer) (block token : Token) (allowed : Bool) : Option Lexer := do
  if !l.inFlow && !l.keyAllowed then none
  else
    let l := l.openBlock l.cursor.column l.tokens.size block
    let l ← l.dropCandidate
    pure ({ l with keyAllowed := allowed }.push token (l.cursor.advance 1))

/-- Reads a value mark. It makes a key of the innermost candidate, if there is one. -/
def valueMark (l : Lexer) : Option Lexer :=
  match l.candidates with
  | some k :: rest =>
    let l := { l with tokens := l.tokens.insertIdxIfInBounds k.position .key }
    let l := l.openBlock k.column k.position .blockMappingStart
    some ({ l with candidates := none :: rest, keyAllowed := false }.push .value
      (l.cursor.advance 1))
  | _ => l.mark .blockMappingStart .value (!l.inFlow)

/-- Reads a token that may be a key or begin one. -/
def word (l : Lexer) (read : Cursor → Option (Token × Cursor)) : Option Lexer := do
  let l ← l.saveCandidate
  let (token, c) ← read l.cursor
  pure ({ l with keyAllowed := false }.push token c)

/-- Reads a block scalar. -/
def block (l : Lexer) (style : Style) : Option Lexer := do
  let l ← l.dropCandidate
  let (text, c) ← readBlock (style = .literal) l.indent (l.cursor.advance 1)
  pure ({ l with keyAllowed := true }.push (.scalar (String.ofList text) style) c)

/-- Reads a quoted scalar. -/
def quoted (l : Lexer) (single : Bool) : Option Lexer :=
  l.word fun c => do
    let (text, c) ← readQuoted single (c.advance 1)
    pure (.scalar (String.ofList text) (if single then .singleQuoted else .doubleQuoted), c)

/-- Reads a plain scalar. After one that ends with a line break a key may start. -/
def plain (l : Lexer) : Option Lexer := do
  let l ← l.saveCandidate
  let (text, broken, c) ← readPlain l.inFlow l.indent l.cursor
  pure ({ l with keyAllowed := broken }.push (.scalar (String.ofList text) .plain) c)

/-- The characters that no plain scalar starts with, unless another character follows at once. -/
def indicators : List Char :=
  ['-', '?', ':', ',', '[', ']', '\x7b', '\x7d', '#', '&', '*', '!', '|', '>', '\'', '"', '%', '@',
    '\x60']

/-- Whether a plain scalar starts here. -/
def startsPlain (l : Lexer) : Bool :=
  let c := l.cursor
  (!c.wordEndsAt 0 && !c.seesAny 0 indicators.contains) ||
  (c.sees 0 '-' && !c.seesAny 1 isBlank) ||
  (!l.inFlow && (c.sees 0 '?' || c.sees 0 ':') && !c.wordEndsAt 1)

/-- Reads the next token, where one starts here. -/
def step (l : Lexer) : Option Lexer := do
  let l ← l.dropStale
  let l := l.closeBlocks l.cursor.column
  let c := l.cursor
  if c.column = 0 ∧ c.sees 0 '%' then do
    let (token, c) ← readDirective (c.advance 1)
    l.boundary token c
  else if c.atDocumentMark '-' then l.boundary .documentStart (c.advance 3)
  else if c.atDocumentMark '.' then l.boundary .documentEnd (c.advance 3)
  else if c.sees 0 '[' then l.openFlow .flowSequenceStart
  else if c.sees 0 '\x7b' then l.openFlow .flowMappingStart
  else if c.sees 0 ']' then l.closeFlow .flowSequenceEnd
  else if c.sees 0 '\x7d' then l.closeFlow .flowMappingEnd
  else if c.sees 0 ',' then do
    let l ← l.dropCandidate
    pure ({ l with keyAllowed := true }.push .flowEntry (c.advance 1))
  else if c.sees 0 '-' ∧ c.wordEndsAt 1 then l.mark .blockSequenceStart .blockEntry true
  else if c.sees 0 '?' ∧ (l.inFlow ∨ c.wordEndsAt 1) then
    l.mark .blockMappingStart .key (!l.inFlow)
  else if c.sees 0 ':' ∧ (l.inFlow ∨ c.wordEndsAt 1) then l.valueMark
  else if c.sees 0 '*' then
    l.word fun c => (readName (c.advance 1)).map fun (name, c) => (.alias name, c)
  else if c.sees 0 '&' then
    l.word fun c => (readName (c.advance 1)).map fun (name, c) => (.anchor name, c)
  else if c.sees 0 '!' then l.word (readTag l.inFlow)
  else if c.sees 0 '|' ∧ ¬ l.inFlow then l.block .literal
  else if c.sees 0 '>' ∧ ¬ l.inFlow then l.block .folded
  else if c.sees 0 '\'' then l.quoted true
  else if c.sees 0 '"' then l.quoted false
  else if l.startsPlain then l.plain
  else none

/-- Ends the text: all blocks are closed, and no candidate may be left that is required. -/
def finish (l : Lexer) : Option Lexer :=
  (l.closeBlocks (-1)).dropCandidate

/-- Reads tokens to the end of the text. -/
def run : Nat → Lexer → Option Lexer
  | 0, _ => none
  | fuel + 1, l =>
    let l := skipToToken (l.cursor.rest.length + 1) l
    if l.cursor.atEnd then (l.dropStale.bind finish)
    else match l.step with
      | some l => run fuel l
      | none => none

end Lexer

/-- The tokens of a text; none for a text that is malformed. -/
def tokens? (text : String) : Option (List Token) :=
  let cs := text.toList
  if cs.all isAllowed then
    (Lexer.run (cs.length + 1) { cursor := .ofText cs }).map (·.tokens.toList)
  else none

end AgentTrial.Yaml
