import AgentTrial.Yaml.Cursor

/-!
# YAML scalars

The four ways to write a text: plain, quoted with one of two quotes, and as a block of lines, which
are kept or folded. Reading gives `none` for a malformed scalar.
-/

namespace AgentTrial.Yaml

/-- How a scalar is written. -/
inductive Style where
  | plain
  | singleQuoted
  | doubleQuoted
  | literal
  | folded
  deriving DecidableEq, Repr

/-- Line breaks between two parts of a scalar: the first, and those after it. -/
structure Breaks where
  first : List Char := []
  more : List Char := []

/-- Breaks as they count in a text whose lines are folded: one line feed becomes a space, and of
several the first is dropped. -/
def Breaks.fold (b : Breaks) : List Char :=
  if b.first.head? = some '\n' then (if b.more = [] then [' '] else b.more) else b.first ++ b.more

/-- One break more. -/
def Breaks.add (b : Breaks) (isFirst : Bool) (chars : List Char) : Breaks :=
  if isFirst then { b with first := chars } else { b with more := b.more ++ chars }

/-! ## Blocks of lines -/

/-- What is done with the line breaks at the end of a block. -/
inductive Chomping where
  | strip
  | clip
  | keep
  deriving DecidableEq

/-- The digit of an explicit indentation. -/
def indentDigit? (c : Char) : Option Nat :=
  if '1' ≤ c ∧ c ≤ '9' then some (c.toNat - '0'.toNat) else none

/-- Reads the header of a block after its indicator: the chomping, an explicit indentation, and the
rest of the line, which holds at most a comment. -/
def readBlockHeader (c : Cursor) : Option (Chomping × Option Nat × Cursor) := do
  let chompingOf (d : Char) : Option Chomping :=
    if d = '+' then some .keep else if d = '-' then some .strip else none
  let (chomping, c) := match c.peek? 0 with
    | some d => match chompingOf d with
      | some chomping => (some chomping, c.advance 1)
      | none => (none, c)
    | none => (none, c)
  if c.sees 0 '0' then none
  let (indent, c) := match c.peek? 0 with
    | some d => match indentDigit? d with
      | some n => (some n, c.advance 1)
      | none => (none, c)
    | none => (none, c)
  let (chomping, c) := match chomping, indent, c.peek? 0 with
    | none, some _, some d => match chompingOf d with
      | some chomping => (some chomping, c.advance 1)
      | none => (none, c)
    | chomping, _, _ => (chomping, c)
  let c := (c.skipWhile isBlank).skipComment
  if c.atLineEnd then pure (chomping.getD .clip, indent, c.takeBreak.2) else none

/-- Reads indentation and empty lines up to a line with content or with the indentation `indent`.
Without an indentation all leading spaces are read, and the widest is reported. -/
def readBlockBreaks (indent : Option Nat) :
    Nat → List Char → Nat → Cursor → Option (List Char × Nat × Cursor)
  | 0, _, _, _ => none
  | fuel + 1, breaks, widest, c =>
    let spaces := (c.rest.takeWhile (· == ' ')).length
    let wanted := match indent with
      | some n => min spaces (n - c.column)
      | none => spaces
    let c := c.advance wanted
    let widest := max widest c.column
    let short : Bool := match indent with
      | some n => c.column < n
      | none => true
    if short && c.sees 0 '\t' then none
    else if c.seesAny 0 isBreak then
      let (chars, c) := c.takeBreak
      readBlockBreaks indent fuel (breaks ++ chars) widest c
    else some (breaks, widest, c)

/-- Reads the lines of a block. `text` holds what has been read, `first` the break that ended the
last line and `more` the breaks after it; `blankBefore` says whether the last line began with a
blank. -/
def readBlockLines (literal : Bool) (indent : Nat) :
    Nat → List Char → Breaks → Bool → Cursor → Option (List Char × Breaks × Cursor)
  | 0, _, _, _, _ => none
  | fuel + 1, text, breaks, blankBefore, c =>
    if c.column = indent ∧ ¬ c.atEnd then
      let blankHere := c.seesAny 0 isBlank
      let folds := !literal && breaks.first.head? == some '\n' && !blankBefore && !blankHere
      let joint := if folds then breaks.fold else breaks.first ++ breaks.more
      let (line, c) := c.takeWhile (!isBreak ·)
      let (first, c) := c.takeBreak
      match readBlockBreaks (some indent) (c.rest.length + 1) [] 0 c with
      | none => none
      | some (more, _, c) =>
        readBlockLines literal indent fuel (text ++ joint ++ line) ⟨first, more⟩ blankHere c
    else some (text, breaks, c)

/-- Reads a block after its indicator, inside a node at column `outer`. -/
def readBlock (literal : Bool) (outer : Int) (c : Cursor) : Option (List Char × Cursor) := do
  let (chomping, increment, c) ← readBlockHeader c
  let explicit := increment.map fun n => (if 0 ≤ outer then outer + n else n).toNat
  let (more, widest, c) ← readBlockBreaks explicit (c.rest.length + 1) [] 0 c
  let indent := explicit.getD (max (max widest (outer + 1).toNat) 1)
  let (text, breaks, c) ← readBlockLines literal indent (c.rest.length + 1) [] ⟨[], more⟩ false c
  let last := if chomping = .strip then [] else breaks.first
  let trailing := if chomping = .keep then breaks.more else []
  pure (text ++ last ++ trailing, c)

/-! ## Blanks between words -/

/-- What stands between two words of a quoted or plain scalar: blanks on one line, or breaks. -/
structure Gap where
  blanks : List Char := []
  breaks : Breaks := {}
  broken : Bool := false

/-- A gap as it counts in a text. -/
def Gap.text (g : Gap) : List Char := if g.broken then g.breaks.fold else g.blanks

/-- Reads blanks and breaks. `guard` is the column before which no tab may stand on a new line. -/
def readGap (guardColumn : Nat) : Nat → Gap → Cursor → Option (Gap × Cursor)
  | 0, _, _ => none
  | fuel + 1, gap, c =>
    if c.seesAny 0 isBlank then
      if gap.broken then
        if c.column < guardColumn ∧ c.sees 0 '\t' then none
        else readGap guardColumn fuel gap (c.advance 1)
      else
        readGap guardColumn fuel { gap with blanks := gap.blanks ++ c.rest.take 1 } (c.advance 1)
    else if c.seesAny 0 isBreak then
      let (chars, c) := c.takeBreak
      let gap := { gap with
        blanks := []
        breaks := gap.breaks.add (!gap.broken) chars
        broken := true }
      readGap guardColumn fuel gap c
    else some (gap, c)

/-! ## Quoted scalars -/

/-- The character of an escape of one letter. -/
def simpleEscape? (c : Char) : Option Char :=
  match c with
  | '0' => some (Char.ofNat 0x00)
  | 'a' => some (Char.ofNat 0x07)
  | 'b' => some (Char.ofNat 0x08)
  | 't' => some '\t'
  | '\t' => some '\t'
  | 'n' => some '\n'
  | 'v' => some (Char.ofNat 0x0B)
  | 'f' => some (Char.ofNat 0x0C)
  | 'r' => some '\r'
  | 'e' => some (Char.ofNat 0x1B)
  | ' ' => some ' '
  | '"' => some '"'
  | '/' => some '/'
  | '\\' => some '\\'
  | 'N' => some (Char.ofNat 0x85)
  | '_' => some (Char.ofNat 0xA0)
  | 'L' => some (Char.ofNat 0x2028)
  | 'P' => some (Char.ofNat 0x2029)
  | _ => none

/-- The number of hexadecimal digits of an escape by number. -/
def escapeWidth? (c : Char) : Option Nat :=
  match c with
  | 'x' => some 2
  | 'u' => some 4
  | 'U' => some 8
  | _ => none

/-- The value of a hexadecimal digit. -/
def hexValue? (c : Char) : Option Nat :=
  if '0' ≤ c ∧ c ≤ '9' then some (c.toNat - '0'.toNat)
  else if 'a' ≤ c ∧ c ≤ 'f' then some (c.toNat - 'a'.toNat + 10)
  else if 'A' ≤ c ∧ c ≤ 'F' then some (c.toNat - 'A'.toNat + 10)
  else none

/-- The number that hexadecimal digits write. -/
def hexNumber? (cs : List Char) : Option Nat :=
  cs.foldlM (fun n c => (hexValue? c).map (n * 16 + ·)) 0

/-- Reads an escape after its backslash. -/
def readEscape (c : Cursor) : Option (Char × Cursor) := do
  let d ← c.peek? 0
  match simpleEscape? d with
  | some e => pure (e, c.advance 1)
  | none =>
    let width ← escapeWidth? d
    let digits := (c.advance 1).rest.take width
    if digits.length = width then
      let n ← hexNumber? digits
      if n.isValidChar then pure (Char.ofNat n, c.advance (1 + width)) else none
    else none

/-- How a run of words and escapes of a quoted scalar ends: at a blank, a break, the quote or the
end of the text, or at an escaped line break. -/
inductive RunEnd where
  | plain
  | escapedBreak
  deriving DecidableEq

/-- Reads characters of a quoted scalar up to a blank, a break or the quote. -/
def readQuotedRun (single : Bool) :
    Nat → List Char → Cursor → Option (List Char × RunEnd × Cursor)
  | 0, _, _ => none
  | fuel + 1, text, c =>
    if c.wordEndsAt 0 then some (text, .plain, c)
    else if single then
      if c.sees 0 '\'' then
        if c.sees 1 '\'' then readQuotedRun single fuel (text ++ ['\'']) (c.advance 2)
        else some (text, .plain, c)
      else readQuotedRun single fuel (text ++ c.rest.take 1) (c.advance 1)
    else if c.sees 0 '"' then some (text, .plain, c)
    else if c.sees 0 '\\' then
      if c.seesAny 1 isBreak then some (text, .escapedBreak, (c.advance 1).takeBreak.2)
      else match readEscape (c.advance 1) with
        | some (d, c) => readQuotedRun single fuel (text ++ [d]) c
        | none => none
    else readQuotedRun single fuel (text ++ c.rest.take 1) (c.advance 1)

/-- Reads a quoted scalar after its quote. -/
def readQuotedFrom (single : Bool) : Nat → List Char → Cursor → Option (List Char × Cursor)
  | 0, _, _ => none
  | fuel + 1, text, c =>
    if c.atDocumentBoundary || c.atEnd then none
    else match readQuotedRun single (c.rest.length + 1) [] c with
      | none => none
      | some (run, ending, c) =>
        let text := text ++ run
        if c.sees 0 (if single then '\'' else '"') then some (text, c.advance 1)
        else
          let gap : Gap := { broken := ending = .escapedBreak }
          match readGap 0 (c.rest.length + 1) gap c with
          | none => none
          | some (gap, c) => readQuotedFrom single fuel (text ++ gap.text) c

/-- Reads a quoted scalar after its quote. -/
def readQuoted (single : Bool) (c : Cursor) : Option (List Char × Cursor) :=
  readQuotedFrom single (c.rest.length + 1) [] c

/-! ## Plain scalars -/

/-- A character that ends a plain scalar inside brackets. -/
def isFlowIndicator (c : Char) : Bool :=
  c == ',' || c == '[' || c == ']' || c == '\x7b' || c == '\x7d'

/-- Reads a word of a plain scalar, which may hold all but blanks and a colon that ends a word.
Inside brackets a colon right before an indicator is malformed. -/
def readPlainWord (inFlow : Bool) : Nat → List Char → Cursor → Option (List Char × Cursor)
  | 0, _, _ => none
  | fuel + 1, word, c =>
    if c.wordEndsAt 0 then some (word, c)
    else if inFlow ∧ c.sees 0 ':' ∧ c.seesAny 1 (fun d => isFlowIndicator d || d == '?') then none
    else if c.sees 0 ':' ∧ c.wordEndsAt 1 then some (word, c)
    else if inFlow ∧ c.seesAny 0 isFlowIndicator then some (word, c)
    else readPlainWord inFlow fuel (word ++ c.rest.take 1) (c.advance 1)

/-- Reads a plain scalar, with `gap` before its next word, inside a node at column `outer`. Says
also whether it ends after a line break. -/
def readPlainFrom (inFlow : Bool) (outer : Int) :
    Nat → List Char → Gap → Cursor → Option (List Char × Bool × Cursor)
  | 0, _, _, _ => none
  | fuel + 1, text, gap, c =>
    if c.atDocumentBoundary || c.sees 0 '#' then some (text, gap.broken, c)
    else match readPlainWord inFlow (c.rest.length + 1) [] c with
      | none => none
      | some (word, c) =>
        let (text, gap) :=
          if word = [] then (text, gap) else (text ++ gap.text ++ word, ({} : Gap))
        if c.seesAny 0 fun d => isBlank d || isBreak d then
          match readGap (outer + 1).toNat (c.rest.length + 1) gap c with
          | none => none
          | some (gap, c) =>
            if ¬ inFlow ∧ (c.column : Int) < outer + 1 then some (text, gap.broken, c)
            else readPlainFrom inFlow outer fuel text gap c
        else some (text, gap.broken, c)

/-- Reads a plain scalar inside a node at column `outer`. -/
def readPlain (inFlow : Bool) (outer : Int) (c : Cursor) : Option (List Char × Bool × Cursor) :=
  readPlainFrom inFlow outer (c.rest.length + 1) [] {} c

end AgentTrial.Yaml
