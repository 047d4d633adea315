import AgentTrial.Text.Digit

/-!
# Places in a YAML text

- The character classes of YAML.
- `Cursor` is a place in a text: what is left of it, and the index, line and column reached.
-/

namespace AgentTrial.Yaml

/-- Whether a character may stand in a text at all. -/
def isAllowed (c : Char) : Bool :=
  let n := c.toNat
  n == 0x09 || n == 0x0A || n == 0x0D || (0x20 ≤ n && n ≤ 0x7E) || n == 0x85 ||
  (0xA0 ≤ n && n ≤ 0xD7FF) || (0xE000 ≤ n && n ≤ 0xFFFD) || 0x10000 ≤ n

/-- A blank within a line. -/
def isBlank (c : Char) : Bool := c == ' ' || c == '\t'

/-- A character that breaks a line. -/
def isBreak (c : Char) : Bool :=
  c == '\n' || c == '\r' || c.toNat == 0x85 || c.toNat == 0x2028 || c.toNat == 0x2029

/-- A character of names. -/
def isNameChar (c : Char) : Bool :=
  ('a' ≤ c && c ≤ 'z') || ('A' ≤ c && c ≤ 'Z') || ('0' ≤ c && c ≤ '9') || c == '-' || c == '_'

/-- The mark that may stand at the start of a text to tell its encoding. -/
def byteOrderMark : Char := Char.ofNat 0xFEFF

/-- A place in a text. -/
structure Cursor where
  rest : List Char
  index : Nat
  line : Nat
  column : Nat

namespace Cursor

/-- The start of a text. -/
def ofText (cs : List Char) : Cursor := ⟨cs, 0, 0, 0⟩

/-- The character at a distance. -/
def peek? (c : Cursor) (distance : Nat) : Option Char := c.rest[distance]?

/-- Whether the character at a distance is a given one. -/
def sees (c : Cursor) (distance : Nat) (expected : Char) : Bool :=
  c.peek? distance == some expected

/-- Whether the character at a distance is in a class. -/
def seesAny (c : Cursor) (distance : Nat) (p : Char → Bool) : Bool :=
  match c.peek? distance with
  | some d => p d
  | none => false

/-- Whether the text ends here. -/
def atEnd (c : Cursor) : Bool := c.rest.isEmpty

/-- Whether a word ends at a distance: at a blank, a break or the end of the text. -/
def wordEndsAt (c : Cursor) (distance : Nat) : Bool :=
  match c.peek? distance with
  | some d => isBlank d || isBreak d
  | none => true

/-- Whether a line ends here. -/
def atLineEnd (c : Cursor) : Bool :=
  match c.rest with
  | d :: _ => isBreak d
  | [] => true

/-- The place `count` characters further on the line. -/
def advance (c : Cursor) (count : Nat) : Cursor :=
  { c with rest := c.rest.drop count, index := c.index + count, column := c.column + count }

/-- The characters of a class from here on, and the place after them. -/
def takeWhile (c : Cursor) (p : Char → Bool) : List Char × Cursor :=
  let taken := c.rest.takeWhile p
  (taken, c.advance taken.length)

/-- The place after the characters of a class. -/
def skipWhile (c : Cursor) (p : Char → Bool) : Cursor := (c.takeWhile p).2

/-- The line break here as it counts in a text, and the start of the next line; nothing where no
line ends. -/
def takeBreak (c : Cursor) : List Char × Cursor :=
  let next (count : Nat) : Cursor := ⟨c.rest.drop count, c.index + count, c.line + 1, 0⟩
  match c.rest with
  | '\r' :: '\n' :: _ => (['\n'], next 2)
  | d :: _ =>
    if d = '\n' ∨ d = '\r' ∨ d.toNat = 0x85 then (['\n'], next 1)
    else if isBreak d then ([d], next 1)
    else ([], c)
  | [] => ([], c)

/-- The place after a comment, if one starts here. -/
def skipComment (c : Cursor) : Cursor :=
  if c.sees 0 '#' then c.skipWhile (!isBreak ·) else c

/-- Whether a marker between documents stands here: three times `mark` at the start of a line. -/
def atDocumentMark (c : Cursor) (mark : Char) : Bool :=
  c.column == 0 && c.sees 0 mark && c.sees 1 mark && c.sees 2 mark && c.wordEndsAt 3

/-- Whether either marker between documents stands here. -/
def atDocumentBoundary (c : Cursor) : Bool := c.atDocumentMark '-' || c.atDocumentMark '.'

end Cursor

end AgentTrial.Yaml
