/-!
# UTF-8

Bytes read as text. A byte string is cut into well-formed characters and malformed spots, where a
spot is the longest start of a character that then breaks off, or one byte that starts none.

- `decodeFirst` reads one character or one spot.
- `decode?` refuses a byte string with a spot in it; `decodeLossy` writes U+FFFD for each spot.
-/

namespace AgentTrial.Text.Utf8

/-- A byte that continues a character. -/
def isTail (b : UInt8) : Bool :=
  0x80 ≤ b && b ≤ 0xBF

/-- The six low bits of a continuation byte. -/
def tailBits (b : UInt8) : Nat :=
  b.toNat % 0x40

/-- The bytes that may follow the lead byte `b` of a character of three or four bytes: neither
an overlong form, nor a surrogate, nor a code point above U+10FFFF. -/
def mayFollow (b next : UInt8) : Bool :=
  if b = 0xE0 then 0xA0 ≤ next && next ≤ 0xBF
  else if b = 0xED then 0x80 ≤ next && next ≤ 0x9F
  else if b = 0xF0 then 0x90 ≤ next && next ≤ 0xBF
  else if b = 0xF4 then 0x80 ≤ next && next ≤ 0x8F
  else isTail next

/-- The character that starts with byte `b`, or `none` for a malformed spot, and the bytes after
it. -/
def decodeFirst (b : UInt8) (rest : List UInt8) : Option Char × List UInt8 :=
  if b < 0x80 then (some (Char.ofNat b.toNat), rest)
  else if 0xC2 ≤ b && b ≤ 0xDF then
    match rest with
    | t :: r =>
      if isTail t then (some (Char.ofNat (b.toNat % 0x20 * 0x40 + tailBits t)), r) else (none, rest)
    | [] => (none, [])
  else if 0xE0 ≤ b && b ≤ 0xEF then
    match rest with
    | t :: r =>
      if mayFollow b t then
        match r with
        | u :: q =>
          if isTail u then
            (some (Char.ofNat ((b.toNat % 0x10 * 0x40 + tailBits t) * 0x40 + tailBits u)), q)
          else (none, r)
        | [] => (none, [])
      else (none, rest)
    | [] => (none, [])
  else if 0xF0 ≤ b && b ≤ 0xF4 then
    match rest with
    | t :: r =>
      if mayFollow b t then
        match r with
        | u :: q =>
          if isTail u then
            match q with
            | v :: p =>
              if isTail v then
                (some (Char.ofNat
                  (((b.toNat % 8 * 0x40 + tailBits t) * 0x40 + tailBits u) * 0x40 + tailBits v)), p)
              else (none, q)
            | [] => (none, [])
          else (none, r)
        | [] => (none, [])
      else (none, rest)
    | [] => (none, [])
  else (none, rest)

theorem decodeFirst_length (b : UInt8) (rest : List UInt8) :
    (decodeFirst b rest).2.length ≤ rest.length := by
  unfold decodeFirst
  repeat' split
  all_goals simp_all <;> omega

/-- The characters of a byte string in order, with `none` for each malformed spot. -/
def decodeAll : List UInt8 → List (Option Char)
  | [] => []
  | b :: rest => (decodeFirst b rest).1 :: decodeAll (decodeFirst b rest).2
termination_by bytes => bytes.length
decreasing_by
  have := decodeFirst_length b rest
  simp only [List.length_cons]
  omega

/-- The text of a well-formed byte string. -/
def decode? (bytes : List UInt8) : Option String :=
  ((decodeAll bytes).mapM id).map String.ofList

/-- The text of any byte string, with U+FFFD for each malformed spot. -/
def decodeLossy (bytes : List UInt8) : String :=
  String.ofList ((decodeAll bytes).map (·.getD (Char.ofNat 0xFFFD)))

/-- The bytes of a text. -/
def encode (s : String) : List UInt8 :=
  s.toUTF8.toList

end AgentTrial.Text.Utf8
