import AgentTrial.Json.Reader
import AgentTrial.Proofs.Text.Digit
import Mathlib.Tactic.SplitIfs

/-!
# Reading the tokens of JSON

The two tokens that have an inside, read where they stand in a text.

* **Quoted texts** — each character is read from its escape, so a text is read back from between its
  quotes (`readQuoted_text`).
* **Numbers** — a number is read in the same way whatever stands after it, if that is not a part of
  a number (`readValue_number`). Each reader of a part of a number has this property (`Local`).
-/

namespace AgentTrial.Json

/-! ## Quoted texts -/

theorem hexValue?_hexDigit : ∀ n < 16, hexValue? (hexDigit n) = some n := by decide

/-- The digits of a control character say its number. -/
theorem readHex_control {n : Nat} (control : n < 0x20) (cs : List Char) :
    readHex ('0' :: '0' :: hexDigit (n / 16) :: hexDigit (n % 16) :: cs) = .ok (n, cs) := by
  have zero : hexValue? '0' = some 0 := by decide
  have high := hexValue?_hexDigit (n / 16) (by omega)
  have low := hexValue?_hexDigit (n % 16) (by omega)
  have whole : ((0 * 16 + 0) * 16 + n / 16) * 16 + n % 16 = n := by omega
  simp only [readHex, zero, high, low, whole]

/-- A plain character is read as itself. -/
theorem readQuoted_plain {c : Char} (noQuote : c ≠ '"') (noEscape : c ≠ '\\')
    (visible : ¬ c.toNat < 0x20) (said : Said) (cs : List Char) :
    readQuoted said (c :: cs) = readQuoted (said.push c) cs := by
  rw [readQuoted.eq_def]
  simp only [noQuote, noEscape, visible, if_false]

/-- An escape of one letter is read as the character that it stands for. -/
theorem readQuoted_simple {e c : Char} (notHex : e ≠ 'u') (stands : simpleEscape? e = some c)
    (said : Said) (cs : List Char) :
    readQuoted said ('\\' :: e :: cs) = readQuoted (said.push c) cs := by
  rw [readQuoted.eq_def]
  simp [notHex, stands]

/-- A control character is read from its number. -/
theorem readQuoted_control {c : Char} (control : c.toNat < 0x20) (said : Said) (cs : List Char) :
    readQuoted said ('\\' :: 'u' :: '0' :: '0' :: hexDigit (c.toNat / 16) ::
      hexDigit (c.toNat % 16) :: cs) = readQuoted (said.push c) cs := by
  rw [readQuoted.eq_def]
  simp only [Char.reduceEq, if_false, if_true]
  split
  · rename_i wrong
    rw [readHex_control control] at wrong
    cases wrong
  · rename_i n after right
    rw [readHex_control control] at right
    simp only [Except.ok.injEq, Prod.mk.injEq] at right
    obtain ⟨rfl, rfl⟩ := right
    have low : ¬ (0xDC00 ≤ c.toNat ∧ c.toNat ≤ 0xDFFF) := by omega
    have high : ¬ (0xD800 ≤ c.toNat ∧ c.toNat ≤ 0xDBFF) := by omega
    rw [if_neg low, if_neg high, Char.ofNat_toNat]

/-- A written character is read as itself. -/
theorem readQuoted_escapeChar (said : Said) (c : Char) (cs : List Char) :
    readQuoted said (escapeChar c ++ cs) = readQuoted (said.push c) cs := by
  have ofNat (n : Nat) (is : c.toNat = n) : Char.ofNat n = c := is ▸ Char.ofNat_toNat c
  unfold escapeChar
  split_ifs with quote back line ret tab bell feed control
  · exact readQuoted_simple (by decide) (by rw [quote]; decide) ..
  · exact readQuoted_simple (by decide) (by rw [back]; decide) ..
  · exact readQuoted_simple (by decide) (by rw [line]; decide) ..
  · exact readQuoted_simple (by decide) (by rw [ret]; decide) ..
  · exact readQuoted_simple (by decide) (by rw [tab]; decide) ..
  · exact readQuoted_simple (by decide) (by rw [← ofNat _ bell]; decide) ..
  · exact readQuoted_simple (by decide) (by rw [← ofNat _ feed]; decide) ..
  · exact readQuoted_control control ..
  · exact readQuoted_plain quote back control ..

/-- Written characters come after those that have been read, which are held last first. -/
theorem readQuoted_flatMap (acc cs rest : List Char) :
    readQuoted (.ok acc) (cs.flatMap escapeChar ++ '"' :: rest) =
      (.ofString (String.ofList (acc.reverse ++ cs)), rest) := by
  induction cs generalizing acc with
  | nil =>
      rw [List.flatMap_nil, List.nil_append, readQuoted.eq_def]
      simp [Said.close, Except.map, Quoted.ofString]
  | cons c cs ih =>
      rw [List.flatMap_cons, List.append_assoc, readQuoted_escapeChar]
      simp only [Said.push, Except.map]
      rw [ih]
      simp

/-- A written text is read as it was. -/
theorem readQuoted_text (s : String) (rest : List Char) :
    readQuoted (.ok []) (s.toList.flatMap escapeChar ++ '"' :: rest) = (.ofString s, rest) := by
  rw [readQuoted_flatMap, List.reverse_nil, List.nil_append, String.ofList_toList]

/-! ## Numbers -/

/-- A text that no number goes on with. -/
structure Stops (rest : List Char) : Prop where
  noDigit : Text.NoDigit rest
  noTail : ∀ c ∈ rest.head?, c ≠ '.' ∧ c ≠ 'e' ∧ c ≠ 'E'

/-- A reader that reads a number in the same way whatever stands after it. -/
def Local (read : List Char → Reading × List Char) : Prop :=
  ∀ {cs after : List Char} {n : Except Fault Number}, read cs = (.number n, after) →
    ∀ {rest : List Char}, Stops rest → read (cs ++ rest) = (.number n, after ++ rest)

section Numbers

variable {cs rest : List Char}

/-- Digits are gathered up to the end of their row. -/
theorem gather_append (stops : Stops rest) (significand count : Nat) (cs : List Char) :
    gather significand count (cs ++ rest) =
      ((gather significand count cs).1, (gather significand count cs).2.1,
        (gather significand count cs).2.2 ++ rest) := by
  induction cs generalizing significand count with
  | nil =>
      cases rest with
      | nil => rfl
      | cons c rest => simp [gather, stops.noDigit c rfl]
  | cons c cs ih =>
      simp only [List.cons_append, gather]
      split_ifs
      · rfl
      · exact ih ..
      · rfl

variable {negative : Bool} {significand : Nat} {exponent : Int}

/-- Reads the exponent after its sign. -/
def readExponentDigits (negative : Bool) (significand : Nat) (exponent : Int) (down : Bool)
    (cs : List Char) : Reading × List Char :=
  match Text.natOfDigits? (cs.takeWhile Text.isAsciiDigit) with
  | none => (brokenNumber cs, [])
  | some n =>
    let number :=
      if maxExponentText < n then
        if significand ≠ 0 ∧ ¬ down then .error .malformed
        else .ok (.real (Binary64.zero negative))
      else realNumber negative significand (if down then exponent - n else exponent + n)
    (.number number, cs.dropWhile Text.isAsciiDigit)

theorem readExponent_unsigned {c : Char} (plus : c ≠ '+') (minus : c ≠ '-') (cs : List Char) :
    readExponent negative significand exponent (c :: cs) =
      readExponentDigits negative significand exponent false (c :: cs) := by
  unfold readExponent
  split
  rename_i signed
  split at signed
  · rename_i same
    exact absurd (List.cons.inj same).1 plus
  · rename_i same
    exact absurd (List.cons.inj same).1 minus
  · cases signed
    rfl

theorem readExponentDigits_local {down : Bool} :
    Local (readExponentDigits negative significand exponent down) := by
  intro cs after n read rest stops
  unfold readExponentDigits at read ⊢
  rw [Text.takeWhile_append stops.noDigit, Text.dropWhile_append stops.noDigit]
  split at read
  · cases read
  · dsimp only at read ⊢
    obtain ⟨same, rfl⟩ := Prod.mk.inj read
    rw [same]

theorem readExponent_local : Local (readExponent negative significand exponent) := by
  intro cs after n read rest stops
  rcases cs with _ | ⟨c, cs⟩
  · cases read
  · by_cases plus : c = '+'
    · subst plus
      exact readExponentDigits_local read stops
    · by_cases minus : c = '-'
      · subst minus
        exact readExponentDigits_local read stops
      · rw [readExponent_unsigned plus minus] at read
        rw [List.cons_append, readExponent_unsigned plus minus]
        exact readExponentDigits_local read stops

/-- Where no power follows, the number ends. -/
theorem readPower_absent (absent : ∀ c ∈ cs.head?, c ≠ 'e' ∧ c ≠ 'E') :
    readPower negative significand exponent cs =
      (.number (realNumber negative significand exponent), cs) := by
  unfold readPower
  split
  · exact absurd rfl (absent 'e' rfl).1
  · exact absurd rfl (absent 'E' rfl).2
  · rfl

theorem Stops.readPower (stops : Stops rest) :
    readPower negative significand exponent rest =
      (.number (realNumber negative significand exponent), rest) :=
  readPower_absent fun c head => (stops.noTail c head).2

theorem readPower_local : Local (readPower negative significand exponent) := by
  intro cs after n read rest stops
  rcases cs with _ | ⟨c, cs⟩
  · obtain ⟨same, rfl⟩ := Prod.mk.inj read
    rw [List.nil_append, stops.readPower]
    exact Prod.ext same rfl
  · by_cases small : c = 'e'
    · subst small
      exact readExponent_local read stops
    · by_cases large : c = 'E'
      · subst large
        exact readExponent_local read stops
      · have absent (tail : List Char) : ∀ d ∈ (c :: tail).head?, d ≠ 'e' ∧ d ≠ 'E' := by
          rintro d ⟨⟩
          exact ⟨small, large⟩
        rw [readPower_absent (absent cs)] at read
        rw [List.cons_append, readPower_absent (absent (cs ++ rest))]
        obtain ⟨same, rfl⟩ := Prod.mk.inj read
        rw [same]
        rfl

theorem readFraction_local : Local (readFraction negative significand exponent) := by
  intro cs after n read rest stops
  rcases cs with _ | ⟨c, cs⟩
  · cases read
  · unfold readFraction at read ⊢
    rw [List.cons_append]
    dsimp only at read ⊢
    split at read
    · rename_i digit
      rw [if_pos digit, ← List.cons_append, gather_append stops,
        Text.dropWhile_append stops.noDigit]
      exact readPower_local read stops
    · cases read

/-- Where neither a fraction nor a power follows, the number ends. -/
theorem readTail_absent
    (absent : ∀ c ∈ (cs.dropWhile Text.isAsciiDigit).head?, c ≠ '.' ∧ c ≠ 'e' ∧ c ≠ 'E') :
    readTail negative significand cs =
      (.number (if (cs.takeWhile Text.isAsciiDigit).length = 0 then
        .ok (wholeNumber negative significand)
      else realNumber negative significand (cs.takeWhile Text.isAsciiDigit).length),
        cs.dropWhile Text.isAsciiDigit) := by
  unfold readTail
  dsimp only
  split
  · rename_i same
    exact absurd rfl (absent '.' (by rw [same]; rfl)).1
  · rename_i same
    exact absurd rfl (absent 'e' (by rw [same]; rfl)).2.1
  · rename_i same
    exact absurd rfl (absent 'E' (by rw [same]; rfl)).2.2
  · split_ifs <;> rfl

theorem readTail_local : Local (readTail negative significand) := by
  intro cs after n read rest stops
  by_cases absent : ∀ c ∈ (cs.dropWhile Text.isAsciiDigit).head?, c ≠ '.' ∧ c ≠ 'e' ∧ c ≠ 'E'
  · have absent' : ∀ c ∈ ((cs ++ rest).dropWhile Text.isAsciiDigit).head?,
        c ≠ '.' ∧ c ≠ 'e' ∧ c ≠ 'E' := by
      rw [Text.dropWhile_append stops.noDigit]
      rcases ending : cs.dropWhile Text.isAsciiDigit with _ | ⟨c, tail⟩
      · exact fun c head => stops.noTail c head
      · rw [ending] at absent
        exact absent
    rw [readTail_absent absent] at read
    rw [readTail_absent absent', Text.takeWhile_append stops.noDigit,
      Text.dropWhile_append stops.noDigit]
    obtain ⟨same, rfl⟩ := Prod.mk.inj read
    rw [same]
  · unfold readTail at read ⊢
    rw [Text.takeWhile_append stops.noDigit, Text.dropWhile_append stops.noDigit]
    dsimp only at read ⊢
    split at read
    · rename_i same
      rw [same]
      exact readFraction_local read stops
    · rename_i same
      rw [same]
      exact readExponent_local read stops
    · rename_i same
      rw [same]
      exact readExponent_local read stops
    · rename_i point small large
      refine absurd ?_ absent
      intro c head
      obtain ⟨tail, same⟩ := List.head?_eq_some_iff.mp head
      refine ⟨?_, ?_, ?_⟩
      · rintro rfl
        exact point _ same
      · rintro rfl
        exact small _ same
      · rintro rfl
        exact large _ same

/-- A number whose first digit is not zero goes on with all digits that follow. -/
theorem readNumber_nonzero {c : Char} (nonzero : c ≠ '0') (cs : List Char) :
    readNumber negative (c :: cs) =
      if Text.isAsciiDigit c then
        readTail negative (gather (c.toNat - '0'.toNat) 1 cs).1
          (gather (c.toNat - '0'.toNat) 1 cs).2.2
      else (.broken .malformed .malformed, []) := by
  unfold readNumber
  split
  · rename_i same
    cases same
  · rename_i same
    exact absurd (List.cons.inj same).1 nonzero
  · rename_i same
    obtain ⟨rfl, rfl⟩ := List.cons.inj same
    rfl

theorem readNumber_local : Local (readNumber negative) := by
  intro cs after n read rest stops
  rcases cs with _ | ⟨c, cs⟩
  · cases read
  by_cases zero : c = '0'
  · subst zero
    rcases cs with _ | ⟨d, cs⟩
    · have alone : readTail negative 0 [] = (.number n, after) := read
      have tail := readTail_local alone stops
      rcases rest with _ | ⟨d, rest⟩
      · exact tail
      · simpa [readNumber, stops.noDigit d rfl] using tail
    · simp only [readNumber, List.cons_append] at read ⊢
      split at read
      · cases read
      · rename_i plain
        rw [if_neg plain]
        exact readTail_local read stops
  · rw [readNumber_nonzero zero] at read
    rw [List.cons_append, readNumber_nonzero zero, gather_append stops]
    split_ifs at read ⊢
    · exact readTail_local read stops
    · cases read

/-- A word is read as what it says or not at all. -/
theorem readWord_eq (value : Reading) (word cs : List Char) :
    (readWord value word cs).1 = value ∨
      ∃ fault, (readWord value word cs).1 = .broken fault fault := by
  fun_induction readWord value word cs with
  | case1 => exact .inl rfl
  | case2 => exact .inr ⟨_, rfl⟩
  | case3 word c cs ih => exact ih
  | case4 => exact .inr ⟨_, rfl⟩

theorem skipBlanks_append {c : Char} {tail : List Char} (visible : skipBlanks cs = c :: tail)
    (rest : List Char) : skipBlanks (cs ++ rest) = c :: (tail ++ rest) := by
  unfold skipBlanks at visible ⊢
  rw [List.dropWhile_append, visible]
  rfl

/-- A number is read in the same way whatever stands after it, and needs no fuel. -/
theorem readValue_number {after : List Char} {n : Except Fault Number}
    (read : readValue 1 cs = (.number n, after)) (stops : Stops rest) (fuel : Nat) :
    readValue (fuel + 1) (cs ++ rest) = (.number n, after ++ rest) := by
  have word (value : Reading) (letters tail : List Char) (other : value ≠ .number n) :
      readWord value letters tail ≠ (.number n, after) := by
    intro same
    rcases readWord_eq value letters tail with whole | ⟨fault, broken⟩
    · rw [same] at whole
      exact other whole.symm
    · rw [same] at broken
      cases broken
  rcases visible : skipBlanks cs with _ | ⟨c, tail⟩
  · rw [readValue, visible] at read
    cases read
  · rw [readValue, visible] at read
    rw [readValue, skipBlanks_append visible]
    dsimp only at read ⊢
    split_ifs at read ⊢
    · exact absurd read (word _ _ _ nofun)
    · exact absurd read (word _ _ _ nofun)
    · exact absurd read (word _ _ _ nofun)
    · exact readNumber_local read stops
    · exact readNumber_local read stops
    · cases read
    · split at read <;> cases read
    · split at read <;> cases read
    · cases read

end Numbers

end AgentTrial.Json
