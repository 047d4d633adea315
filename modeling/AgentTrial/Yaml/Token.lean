import AgentTrial.Yaml.Scalar

/-!
# YAML tokens

The words of a YAML text, among them the starts and ends of blocks that its indentation implies.
-/

namespace AgentTrial.Yaml

/-- A word of a YAML text. -/
inductive Token where
  | versionDirective (major minor : Nat)
  | tagDirective (handle expansion : String)
  | documentStart
  | documentEnd
  | blockSequenceStart
  | blockMappingStart
  | blockEnd
  | flowSequenceStart
  | flowSequenceEnd
  | flowMappingStart
  | flowMappingEnd
  | blockEntry
  | flowEntry
  | key
  | value
  | alias (name : String)
  | anchor (name : String)
  | tag (handle suffix : String)
  | scalar (text : String) (style : Style)
  deriving DecidableEq, Repr

/-! ## Names, tags and directives -/

/-- Reads a name after its indicator. It ends at a blank, a break or one of a few indicators. -/
def readName (c : Cursor) : Option (String × Cursor) :=
  let (name, c) := c.takeWhile isNameChar
  let ends := c.wordEndsAt 0 ||
    c.seesAny 0 fun d => ['?', ':', ',', ']', '\x7d', '%', '@', '\x60'].contains d
  if name ≠ [] ∧ ends then some (String.ofList name, c) else none

/-- A character of a tag; commas and square brackets only where the tag is between angle
brackets. -/
def isTagChar (verbatim : Bool) (c : Char) : Bool :=
  isNameChar c ||
  [';', '/', '?', ':', '@', '&', '=', '+', '$', '.', '!', '~', '*', '\'', '(', ')'].contains c ||
  (verbatim && [',', '[', ']'].contains c)

/-- The number of bytes of a character by its first byte. -/
def byteCount? (n : Nat) : Option Nat :=
  if n < 0x80 then some 1
  else if 0xC0 ≤ n ∧ n < 0xE0 then some 2
  else if 0xE0 ≤ n ∧ n < 0xF0 then some 3
  else if 0xF0 ≤ n ∧ n < 0xF8 then some 4
  else none

/-- Reads a byte written as a percent sign and two hexadecimal digits. -/
def readEscapedByte (c : Cursor) : Option (Nat × Cursor) :=
  match c.rest with
  | '%' :: a :: b :: _ => (hexNumber? [a, b]).map fun n => (n, c.advance 3)
  | _ => none

/-- Reads `count` more escaped bytes of a character whose bits so far are `bits`. -/
def readEscapedTail : Nat → Nat → Cursor → Option (Nat × Cursor)
  | 0, bits, c => some (bits, c)
  | count + 1, bits, c =>
    match readEscapedByte c with
    | some (n, c) =>
      if 0x80 ≤ n ∧ n < 0xC0 then readEscapedTail count (bits * 0x40 + n % 0x40) c else none
    | none => none

/-- Reads a character whose bytes are all escaped. -/
def readEscapedChar (c : Cursor) : Option (Char × Cursor) := do
  let (first, c) ← readEscapedByte c
  let count ← byteCount? first
  let bits := if count = 1 then first else first % Nat.pow 2 (7 - count)
  let (bits, c) ← readEscapedTail (count - 1) bits c
  pure (Char.ofNat bits, c)

/-- Reads the characters of a tag after `text`. -/
def readTagText (verbatim : Bool) : Nat → List Char → Cursor → Option (List Char × Cursor)
  | 0, _, _ => none
  | fuel + 1, text, c =>
    if c.sees 0 '%' then
      match readEscapedChar c with
      | some (d, c) => readTagText verbatim fuel (text ++ [d]) c
      | none => none
    else if c.seesAny 0 (isTagChar verbatim) then
      readTagText verbatim fuel (text ++ c.rest.take 1) (c.advance 1)
    else some (text, c)

/-- Reads a tag or the rest of one, of which `head` has been read. -/
def readTagSuffix (verbatim : Bool) (head : List Char) (c : Cursor) : Option (String × Cursor) :=
  match readTagText verbatim (c.rest.length + 1) (head.drop 1) c with
  | some (text, c') =>
    if head = [] ∧ c'.index = c.index then none else some (String.ofList text, c')
  | none => none

/-- Reads a tag handle: an exclamation mark, a name, and mostly another exclamation mark. -/
def readHandle (c : Cursor) : Option (List Char × Cursor) :=
  if c.sees 0 '!' then
    let (name, c) := (c.advance 1).takeWhile isNameChar
    if c.sees 0 '!' then some ('!' :: name ++ ['!'], c.advance 1) else some ('!' :: name, c)
  else none

/-- Whether a handle is closed by a second exclamation mark. -/
def isClosedHandle (handle : List Char) : Bool :=
  1 < handle.length && handle.getLast? == some '!'

/-- Reads a tag. -/
def readTag (inFlow : Bool) (c : Cursor) : Option (Token × Cursor) := do
  let (tag, c) ←
    if c.sees 1 '<' then do
      let (suffix, c) ← readTagSuffix true [] (c.advance 2)
      if c.sees 0 '>' then pure (Token.tag "" suffix, c.advance 1) else none
    else do
      let (handle, c) ← readHandle c
      if isClosedHandle handle then
        let (suffix, c) ← readTagSuffix false [] c
        pure (Token.tag (String.ofList handle) suffix, c)
      else
        let (suffix, c) ← readTagSuffix false handle c
        if suffix.isEmpty then pure (Token.tag "" "!", c) else pure (Token.tag "!" suffix, c)
  if c.wordEndsAt 0 ∨ (inFlow ∧ c.sees 0 ',') then pure (tag, c) else none

/-- Reads a number of a version, of at most nine digits. -/
def readVersionNumber (c : Cursor) : Option (Nat × Cursor) :=
  let (digits, c) := c.takeWhile Text.isAsciiDigit
  if digits.length ≤ 9 then (Text.natOfDigits? digits).map fun n => (n, c) else none

/-- Reads a directive after its percent sign, to the end of its line. -/
def readDirective (c : Cursor) : Option (Token × Cursor) := do
  let (name, c) := c.takeWhile isNameChar
  if name = [] ∨ ¬ c.wordEndsAt 0 then none
  else
    let (token, c) ←
      if name = "YAML".toList then do
        let (major, c) ← readVersionNumber (c.skipWhile isBlank)
        if c.sees 0 '.' then
          let (minor, c) ← readVersionNumber (c.advance 1)
          pure (Token.versionDirective major minor, c)
        else none
      else if name = "TAG".toList then do
        let (handle, c) ← readHandle (c.skipWhile isBlank)
        if (isClosedHandle handle ∨ handle = ['!']) ∧ c.seesAny 0 isBlank then
          let (expansion, c) ← readTagSuffix true [] (c.skipWhile isBlank)
          if c.wordEndsAt 0 then
            pure (Token.tagDirective (String.ofList handle) expansion, c)
          else none
        else none
      else none
    let c := (c.skipWhile isBlank).skipComment
    if c.atLineEnd then pure (token, c.takeBreak.2) else none

end AgentTrial.Yaml
