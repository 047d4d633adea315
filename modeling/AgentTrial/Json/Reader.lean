import AgentTrial.Json.Reading
import AgentTrial.Text.Digit

/-!
# Reading JSON texts

- `readQuoted` and `readNumber` read the two tokens that have an inside.
- `Document.ofText` reads a whole text.
-/

namespace AgentTrial.Json

/-- The blanks of JSON. -/
def isBlank (c : Char) : Bool :=
  c == ' ' || c == '\n' || c == '\t' || c == '\r'

def skipBlanks (cs : List Char) : List Char := cs.dropWhile isBlank

/-! ## Texts -/

/-- The value of a hexadecimal digit. -/
def hexValue? (c : Char) : Option Nat :=
  if '0' ≤ c ∧ c ≤ '9' then some (c.toNat - '0'.toNat)
  else if 'a' ≤ c ∧ c ≤ 'f' then some (c.toNat - 'a'.toNat + 10)
  else if 'A' ≤ c ∧ c ≤ 'F' then some (c.toNat - 'A'.toNat + 10)
  else none

/-- The number that four hexadecimal digits write, and the rest. With fewer than four bytes left the
text ends too early, whatever they are. -/
def readHex (cs : List Char) : Except Fault (Nat × List Char) :=
  match cs with
  | a :: b :: c :: d :: rest =>
    match hexValue? a, hexValue? b, hexValue? c, hexValue? d with
    | some a, some b, some c, some d => .ok (((a * 16 + b) * 16 + c) * 16 + d, rest)
    | _, _, _, _ => .error .malformed
  | _ =>
    if 4 ≤ (String.ofList cs).utf8ByteSize then .error .malformed else .error .endOfInput

theorem readHex_length {cs rest : List Char} {n : Nat} (h : readHex cs = .ok (n, rest)) :
    rest.length < cs.length := by
  unfold readHex at h
  split at h
  · split at h
    · simp only [Except.ok.injEq, Prod.mk.injEq] at h
      simp [← h.2]
      omega
    · simp at h
  · split at h <;> simp at h

/-- The low half of a surrogate pair, as an escape of its own, and the rest. -/
def readLowSurrogate (cs : List Char) : Except Fault (Nat × List Char) :=
  match cs with
  | [] => .error .endOfInput
  | ['\\'] => .error .endOfInput
  | '\\' :: 'u' :: rest =>
    match readHex rest with
    | .ok (low, rest) =>
      if 0xDC00 ≤ low ∧ low ≤ 0xDFFF then .ok (low, rest) else .error .malformed
    | .error fault => .error fault
  | _ => .error .malformed

theorem readLowSurrogate_length {cs rest : List Char} {n : Nat}
    (h : readLowSurrogate cs = .ok (n, rest)) : rest.length < cs.length := by
  unfold readLowSurrogate at h
  split at h
  · simp at h
  · simp at h
  · split at h
    · rename_i hr
      have := readHex_length hr
      split at h
      · simp only [Except.ok.injEq, Prod.mk.injEq] at h
        simp only [← h.2, List.length_cons]
        omega
      · simp at h
    · simp at h
  · simp at h

/-- The character of an escape that is one letter. -/
def simpleEscape? (c : Char) : Option Char :=
  if c = '"' ∨ c = '\\' ∨ c = '/' then some c
  else if c = 'b' then some (Char.ofNat 0x08)
  else if c = 'f' then some (Char.ofNat 0x0C)
  else if c = 'n' then some '\n'
  else if c = 'r' then some '\r'
  else if c = 't' then some '\t'
  else none

/-- What a quoted text says, as far as it has been read: its characters, last first, or the first
fault in it. -/
abbrev Said := Except Fault (List Char)

/-- A character more. -/
def Said.push (said : Said) (c : Char) : Said := said.map (c :: ·)

/-- A fault more, which counts if it is the first. -/
def Said.fail (said : Said) (fault : Fault) : Said :=
  match said with
  | .ok _ => .error fault
  | .error first => .error first

/-- The text that has been read, where its end is found or not. -/
def Said.close (said : Said) : Quoted :=
  ⟨said.map fun cs => String.ofList cs.reverse, .ok ()⟩

/-- A text whose end is not found. -/
def Said.cut (said : Said) (fault : Fault) : Quoted :=
  ⟨(said.fail fault).map fun cs => String.ofList cs.reverse, .error fault⟩

/-- Reads a text after its opening quote. -/
def readQuoted (said : Said) (cs : List Char) : Quoted × List Char :=
  match cs with
  | [] => (said.cut .endOfInput, [])
  | c :: rest =>
    if c = '"' then (said.close, rest)
    else if c = '\\' then
      match rest with
      | [] => (said.cut .endOfInput, [])
      | e :: rest =>
        if e = 'u' then
          match hr : readHex rest with
          | .error fault => (said.cut fault, [])
          | .ok (n, after) =>
            have := readHex_length hr
            if 0xDC00 ≤ n ∧ n ≤ 0xDFFF then readQuoted (said.fail .malformed) after
            else if 0xD800 ≤ n ∧ n ≤ 0xDBFF then
              match hl : readLowSurrogate after with
              | .ok (low, after') =>
                have := readLowSurrogate_length hl
                readQuoted (said.push (Char.ofNat (0x10000 + (n - 0xD800) * 0x400 + (low - 0xDC00))))
                  after'
              | .error fault => readQuoted (said.fail fault) after
            else readQuoted (said.push (Char.ofNat n)) after
        else match simpleEscape? e with
          | some c => readQuoted (said.push c) rest
          | none => (said.cut .malformed, [])
    else if c.toNat < 0x20 then (said.cut .malformed, [])
    else readQuoted (said.push c) rest
termination_by cs.length
decreasing_by all_goals simp_wf <;> omega

/-! ## Numbers -/

/-- The powers of ten that one step multiplies or divides by go up to this one. -/
def maxPower : Nat := 308

/-- `x` times or divided by a power of ten, in steps of at most `10 ^ 308`, each rounded. A number
too large is a fault. -/
def scale (fuel : Nat) (x : Binary64) (exponent : Int) : Except Fault Binary64 :=
  if exponent.natAbs ≤ maxPower then
    let power := Binary64.pow10 exponent.natAbs
    let result := if 0 ≤ exponent then x.mul? power else x.div? power
    match result with
    | some y => .ok y
    | none => .error .malformed
  else if x.mantissa = 0 then .ok x
  else if 0 ≤ exponent then .error .malformed
  else match fuel with
    | 0 => .ok (Binary64.zero false)
    | fuel + 1 => scale fuel ((x.div? (Binary64.pow10 maxPower)).getD x) (exponent + maxPower)

/-- The double-precision number `significand * 10 ^ exponent` with a sign. -/
def realNumber (negative : Bool) (significand : Nat) (exponent : Int) : Except Fault Number :=
  (scale 10 (Binary64.ofNat significand) exponent).map fun x =>
    .real (if negative then x.neg else x)

/-- The largest whole number that digits are gathered into. -/
def maxSignificand : Nat := Nat.pow 2 64 - 1

/-- Gathers digits while they fit, and says how many were gathered and whether more follow. -/
def gather (significand count : Nat) : List Char → Nat × Nat × List Char
  | [] => (significand, count, [])
  | c :: rest =>
    if Text.isAsciiDigit c then
      let next := significand * 10 + (c.toNat - '0'.toNat)
      if maxSignificand < next then (significand, count, c :: rest)
      else gather next (count + 1) rest
    else (significand, count, c :: rest)

/-- The largest exponent that is told apart from larger ones. -/
def maxExponentText : Nat := Nat.pow 2 31 - 1

/-- The two faults of a number that breaks off: for whoever takes it the text ends too early where
it ends, for whoever skips it it is malformed either way. -/
def brokenNumber (rest : List Char) : Reading :=
  .broken (if rest.isEmpty then .endOfInput else .malformed) .malformed

/-- Reads the exponent after its letter. -/
def readExponent (negative : Bool) (significand : Nat) (exponent : Int) (cs : List Char) :
    Reading × List Char :=
  let (down, cs) := match cs with
    | '+' :: rest => (false, rest)
    | '-' :: rest => (true, rest)
    | _ => (false, cs)
  let digits := cs.takeWhile Text.isAsciiDigit
  let rest := cs.dropWhile Text.isAsciiDigit
  match Text.natOfDigits? digits with
  | none => (brokenNumber cs, [])
  | some n =>
    let number :=
      if maxExponentText < n then
        if significand ≠ 0 ∧ ¬ down then .error .malformed
        else .ok (.real (Binary64.zero negative))
      else realNumber negative significand (if down then exponent - n else exponent + n)
    (.number number, rest)

/-- Reads what may follow the whole part and the fraction. -/
def readPower (negative : Bool) (significand : Nat) (exponent : Int) (cs : List Char) :
    Reading × List Char :=
  match cs with
  | 'e' :: rest => readExponent negative significand exponent rest
  | 'E' :: rest => readExponent negative significand exponent rest
  | _ => (.number (realNumber negative significand exponent), cs)

/-- Reads the fraction after its point. Digits beyond the significand are dropped. -/
def readFraction (negative : Bool) (significand : Nat) (exponent : Int) (cs : List Char) :
    Reading × List Char :=
  match cs with
  | [] => (brokenNumber [], [])
  | c :: _ =>
    if Text.isAsciiDigit c then
      let (significand, count, rest) := gather significand 0 cs
      readPower negative significand (exponent - count) (rest.dropWhile Text.isAsciiDigit)
    else (brokenNumber cs, [])

/-- The number of a row of digits that is no longer than a significand. -/
def wholeNumber (negative : Bool) (n : Nat) : Number :=
  if ¬ negative then .whole n
  else if n = 0 ∨ Nat.pow 2 63 < n then .real (Binary64.ofNat n).neg
  else .whole (-(n : Int))

/-- Reads what follows the first digits of a number. -/
def readTail (negative : Bool) (significand : Nat) (cs : List Char) : Reading × List Char :=
  let dropped := (cs.takeWhile Text.isAsciiDigit).length
  let rest := cs.dropWhile Text.isAsciiDigit
  match rest with
  | '.' :: rest => readFraction negative significand dropped rest
  | 'e' :: rest => readExponent negative significand dropped rest
  | 'E' :: rest => readExponent negative significand dropped rest
  | _ =>
    if dropped = 0 then (.number (.ok (wholeNumber negative significand)), rest)
    else (.number (realNumber negative significand dropped), rest)

/-- Reads a number after its sign. -/
def readNumber (negative : Bool) (cs : List Char) : Reading × List Char :=
  match cs with
  | [] => (brokenNumber [], [])
  | '0' :: rest =>
    match rest with
    | c :: _ =>
      if Text.isAsciiDigit c then (.broken .malformed .malformed, []) else readTail negative 0 rest
    | [] => readTail negative 0 []
  | c :: rest =>
    if Text.isAsciiDigit c then
      let (significand, _, rest) := gather (c.toNat - '0'.toNat) 1 rest
      readTail negative significand rest
    else (.broken .malformed .malformed, [])

/-! ## Values -/

/-- Reads the rest of a word, where `value` is what the whole word says. -/
def readWord (value : Reading) : List Char → List Char → Reading × List Char
  | [], cs => (value, cs)
  | _ :: _, [] => (.broken .endOfInput .endOfInput, [])
  | w :: word, c :: cs => if w = c then readWord value word cs else (.broken .malformed .malformed, [])

mutual

/-- Reads a value; `fuel` bounds the number of its parts. -/
def readValue (fuel : Nat) (cs : List Char) : Reading × List Char :=
  match fuel with
  | 0 => (.broken .endOfInput .endOfInput, [])
  | fuel + 1 =>
    match skipBlanks cs with
    | [] => (.broken .endOfInput .endOfInput, [])
    | c :: rest =>
      if c = 'n' then readWord .null ['u', 'l', 'l'] rest
      else if c = 't' then readWord (.bool true) ['r', 'u', 'e'] rest
      else if c = 'f' then readWord (.bool false) ['a', 'l', 's', 'e'] rest
      else if c = '-' then readNumber true rest
      else if Text.isAsciiDigit c then readNumber false (c :: rest)
      else if c = '"' then
        let (s, rest) := readQuoted (.ok []) rest
        (.string s, rest)
      else if c = '[' then
        match skipBlanks rest with
        | ']' :: rest => (.array .done, rest)
        | rest =>
          let (items, rest) := readItems fuel false rest
          (.array items, rest)
      else if c = '\x7b' then
        match skipBlanks rest with
        | '\x7d' :: rest => (.object .done, rest)
        | rest =>
          let (members, rest) := readMembers fuel false rest
          (.object members, rest)
      else (.broken .malformed .malformed, [])

/-- Reads the items of an array from one item on, after a comma or the opening bracket. -/
def readItems (fuel : Nat) (afterComma : Bool) (cs : List Char) : Items × List Char :=
  match fuel with
  | 0 => (.broken .endOfInput afterComma, [])
  | fuel + 1 =>
    match skipBlanks cs with
    | [] => (.broken .endOfInput afterComma, [])
    | ']' :: _ => (.broken .malformed afterComma, [])
    | cs =>
      let (item, rest) := readValue fuel cs
      match skipBlanks rest with
      | [] => (.cons item (.broken .endOfInput false), [])
      | ']' :: rest => (.cons item .done, rest)
      | ',' :: rest =>
        let (items, rest) := readItems fuel true rest
        (.cons item items, rest)
      | _ => (.cons item (.broken .malformed false), [])

/-- Reads the members of an object from one member on, after a comma or the opening bracket. -/
def readMembers (fuel : Nat) (afterComma : Bool) (cs : List Char) : Members × List Char :=
  match fuel with
  | 0 => (.broken .endOfInput afterComma, [])
  | fuel + 1 =>
    match skipBlanks cs with
    | [] => (.broken .endOfInput afterComma, [])
    | '"' :: rest =>
      let (key, rest) := readQuoted (.ok []) rest
      match skipBlanks rest with
      | [] => (.orphan key .endOfInput, [])
      | ':' :: rest =>
        let (value, rest) := readValue fuel rest
        match skipBlanks rest with
        | [] => (.cons key value (.broken .endOfInput false), [])
        | '\x7d' :: rest => (.cons key value .done, rest)
        | ',' :: rest =>
          let (members, rest) := readMembers fuel true rest
          (.cons key value members, rest)
        | _ => (.cons key value (.broken .malformed false), [])
      | _ => (.orphan key .malformed, [])
    | '\x7d' :: _ => (.broken .malformed afterComma, [])
    | cs => (.stray (readValue fuel cs).1, [])

end

/-- The reading of a whole text. -/
def Document.ofText (text : String) : Document :=
  let (value, rest) := readValue (text.length + 1) text.toList
  ⟨value, if (skipBlanks rest).isEmpty then .ok () else .error .malformed⟩

/-- The value that a text writes, when brackets are nested at most 127 deep. -/
def Value.ofText? (text : String) : Option Value :=
  let document := Document.ofText text
  match document.value.value 127, document.ending with
  | .ok value, .ok () => some value
  | _, _ => none

end AgentTrial.Json
