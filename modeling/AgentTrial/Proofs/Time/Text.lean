import AgentTrial.Proofs.Text.Digit
import AgentTrial.Proofs.Time.Calendar
import AgentTrial.Proofs.Time.Instant
import Mathlib.Data.Option.Basic

/-!
# The text of an instant

What is read from the text that an instant writes, and which instants are read at all.

* **Fields** — every field is read from its digits, up to the character after it (`field_padded`,
  `year_yearText`, `fraction_fractionText`).
* **Instants** — an instant of the calendar is read back from its text (`ofText?_text`), and any text
  that is read gives an instant of the calendar (`ofText?_isValid`). So the instants that are read
  back are those of the calendar (`legible_iff`).
-/

namespace AgentTrial.Instant

open Text

/-- An instant that is read back from its text. -/
def Legible (t : Instant) : Prop := ofText? t.text = some t

instance (t : Instant) : Decidable t.Legible := inferInstanceAs (Decidable (_ = _))

/-! ## Fields -/

section Fields

variable {width n : Nat} {rest : List Char}

/-- A padded number is its digits after zeros. -/
theorem toList_padded (width n : Nat) :
    (padded width n).toList =
      List.replicate (width - (Nat.toDigits 10 n).length) '0' ++ Nat.toDigits 10 n := by
  simp [padded]

theorem natOfDigits?_padded (width n : Nat) : natOfDigits? (padded width n).toList = some n := by
  rw [toList_padded, natOfDigits?_zeros_toDigits]

theorem length_padded (positive : 0 < width) (small : n < 10 ^ width) :
    (padded width n).toList.length = width := by
  have short := (Nat.length_toDigits_le_iff (by decide) positive).mpr small
  rw [toList_padded, List.length_append, List.length_replicate]
  omega

/-- A row of digits is read up to its end. -/
theorem number_append {digits : List Char} (writes : natOfDigits? digits = some n)
    (short : digits.length ≤ width) (noDigit : NoDigit rest) :
    number width (digits ++ rest) = some (n, rest) := by
  have all := (natOfDigits?_eq_some_iff.mp writes).1.2
  have row : ((digits ++ rest).take width).takeWhile isAsciiDigit = digits := by
    rw [List.take_append, List.take_of_length_le short, List.takeWhile_append_of_pos all,
      (noDigit.take _).takeWhile, List.append_nil]
  simp only [number, row, writes, Option.map_some, List.drop_left]

/-- A padded number starts with a digit. -/
theorem padded_eq_cons (width n : Nat) :
    ∃ c digits, (padded width n).toList = c :: digits ∧ isAsciiDigit c = true := by
  obtain ⟨⟨some, all⟩, -⟩ := natOfDigits?_eq_some_iff.mp (natOfDigits?_padded width n)
  obtain ⟨c, digits, row⟩ := List.exists_cons_of_ne_nil some
  exact ⟨c, digits, row, all c (by rw [row]; exact List.mem_cons_self)⟩

theorem trimStart_padded (width n : Nat) (rest : List Char) :
    trimStart ((padded width n).toList ++ rest) = (padded width n).toList ++ rest := by
  obtain ⟨c, digits, row, digit⟩ := padded_eq_cons width n
  rw [row]
  exact List.dropWhile_cons_of_neg (by simp [isBlank_of_isAsciiDigit digit])

theorem number_padded (positive : 0 < width) (small : n < 10 ^ width) {most : Nat}
    (fits : width ≤ most) (noDigit : NoDigit rest) :
    number most ((padded width n).toList ++ rest) = some (n, rest) := by
  have size := length_padded positive small
  exact number_append (natOfDigits?_padded width n) (by omega) noDigit

/-- A field of two digits is read as its number. -/
theorem field_padded {low high : Nat} (bounds : low ≤ n ∧ n ≤ high) (small : n < 100)
    (noDigit : NoDigit rest) :
    field low high ((padded 2 n).toList ++ rest) = some (n, rest) := by
  have read := number_padded (by decide : 0 < 2) small (Nat.le_refl 2) noDigit
  rw [field, trimStart_padded, read]
  simp [bounds, guard]

/-- A year without a sign is read from its four digits. -/
theorem year_padded (small : n < 10 ^ 4) (noDigit : NoDigit rest) :
    year ((padded 4 n).toList ++ rest) = some ((n : Int), rest) := by
  have read := number_padded (by decide) small (Nat.le_refl 4) noDigit
  obtain ⟨c, digits, row, digit⟩ := padded_eq_cons 4 n
  rw [year, trimStart_padded]
  split
  · rename_i same
    rw [row] at same
    obtain ⟨rfl, -⟩ := List.cons.inj same
    exact absurd digit (by decide)
  · rename_i same
    rw [row] at same
    obtain ⟨rfl, -⟩ := List.cons.inj same
    exact absurd digit (by decide)
  · rw [read]
    rfl

/-- A year with a sign is read from all digits that follow. -/
theorem year_signed {digits : List Char} (writes : natOfDigits? digits = some n)
    (noDigit : NoDigit rest) :
    year ('-' :: (digits ++ rest)) = some (-(n : Int), rest) ∧
      year ('+' :: (digits ++ rest)) = some ((n : Int), rest) := by
  have fits : digits.length ≤ (digits ++ rest).length := by
    rw [List.length_append]
    exact Nat.le_add_right ..
  have read := number_append writes fits noDigit
  have minus (cs : List Char) : trimStart ('-' :: cs) = '-' :: cs := rfl
  have plus (cs : List Char) : trimStart ('+' :: cs) = '+' :: cs := rfl
  constructor
  · simp only [year, minus, read, Option.map_some]
  · simp only [year, plus, read, Option.map_some]

/-- A year is read from its text. -/
theorem year_yearText (y : Int) (noDigit : NoDigit rest) :
    year ((yearText y).toList ++ rest) = some (y, rest) := by
  obtain ⟨minus, plus⟩ := year_signed (natOfDigits?_padded 4 y.natAbs) noDigit
  unfold yearText
  split_ifs with plain negative
  · have read := year_padded (n := y.toNat) (by omega) noDigit
    rw [read, Int.toNat_of_nonneg plain.1]
  · have text : ("-" ++ padded 4 y.natAbs).toList ++ rest =
        '-' :: ((padded 4 y.natAbs).toList ++ rest) := by simp
    have value : -(y.natAbs : Int) = y := by omega
    rw [text, minus, value]
  · have text : ("+" ++ padded 4 y.natAbs).toList ++ rest =
        '+' :: ((padded 4 y.natAbs).toList ++ rest) := by simp
    have value : (y.natAbs : Int) = y := by omega
    rw [text, plus, value]

/-- A fraction of some places is read in full nanoseconds. -/
theorem fraction_padded (positive : 0 < width) (most : width ≤ 9) (short : n < 10 ^ width) :
    fraction (("." ++ padded width n).toList ++ ['Z']) =
      some (n * Nat.pow 10 (9 - width), ['Z']) := by
  have noDigit : NoDigit ['Z'] := by
    rintro c ⟨⟩
    decide
  have text : ("." ++ padded width n).toList ++ ['Z'] =
      '.' :: ((padded width n).toList ++ ['Z']) := by simp
  have read := number_padded positive short most noDigit
  have count : ((padded width n).toList ++ ['Z']).length - ['Z'].length = width := by
    rw [List.length_append, length_padded positive short, Nat.add_sub_cancel]
  rw [text, fraction]
  simp only [read, bind, Option.bind, count, noDigit.dropWhile, pure]

/-- A fraction is read from its text. -/
theorem fraction_fractionText {nanos : Nat} (small : nanos < nanosPerSecond) :
    fraction ((fractionText nanos).toList ++ ['Z']) = some (nanos, ['Z']) := by
  unfold fractionText
  unfold nanosPerSecond at small
  split_ifs with zero milli micro
  · subst zero
    rfl
  · have value : nanos / 1000000 * Nat.pow 10 (9 - 3) = nanos := by
      rw [show Nat.pow 10 (9 - 3) = 1000000 from rfl]
      omega
    rw [fraction_padded (by decide) (by decide) (by omega), value]
  · have value : nanos / 1000 * Nat.pow 10 (9 - 6) = nanos := by
      rw [show Nat.pow 10 (9 - 6) = 1000 from rfl]
      omega
    rw [fraction_padded (by decide) (by decide) (by omega), value]
  · have value : nanos * Nat.pow 10 (9 - 9) = nanos := Nat.mul_one nanos
    rw [fraction_padded (by decide) (by decide) (by omega), value]

end Fields

/-! ## Instants -/

section Instants

variable {t : Instant}

theorem noDigit_cons {c : Char} (other : isAsciiDigit c = false) (rest : List Char) :
    NoDigit (c :: rest) := by
  rintro d ⟨⟩
  exact other

/-- The characters of an instant. -/
theorem toList_text (t : Instant) :
    t.text.toList =
      (yearText (Date.ofDayNumber t.day).year).toList ++ '-' ::
        ((padded 2 (Date.ofDayNumber t.day).month).toList ++ '-' ::
          ((padded 2 (Date.ofDayNumber t.day).day).toList ++ 'T' ::
            ((padded 2 (t.second / 3600)).toList ++ ':' ::
              ((padded 2 (t.second / 60 % 60)).toList ++ ':' ::
                ((padded 2 (t.second % 60 + t.nanos / nanosPerSecond)).toList ++
                  ((fractionText (t.nanos % nanosPerSecond)).toList ++ ['Z'])))))) := by
  simp [text]

theorem noDigit_fractionText (nanos : Nat) : NoDigit ((fractionText nanos).toList ++ ['Z']) := by
  have point (s : String) : NoDigit (("." ++ s).toList ++ ['Z']) := by
    rw [String.toList_append, List.append_assoc]
    exact noDigit_cons (by decide) _
  unfold fractionText
  split_ifs
  · exact noDigit_cons (by decide) _
  · exact point _
  · exact point _
  · exact point _

theorem separator_cons {c : Char} (visible : isBlank c = false) (cs : List Char) :
    separator c (c :: cs) = some ((), cs) := by
  have start : trimStart (c :: cs) = c :: cs :=
    List.dropWhile_cons_of_neg (by simp [visible])
  simp only [separator, start, if_true]

/-- The time of day that the fields of an instant tell, and its leap second. -/
theorem fields_eq (valid : t.IsValid) :
    (t.second % 60 + t.nanos / nanosPerSecond) / 60 = t.nanos / nanosPerSecond ∧
    t.second / 3600 * 3600 + t.second / 60 % 60 * 60 +
      (t.second % 60 + t.nanos / nanosPerSecond - t.nanos / nanosPerSecond) = t.second := by
  have nanos_lt := valid.nanos_lt
  have leap := valid.leap
  unfold nanosPerSecond at *
  omega

/-- An instant of the calendar is read back from its text. -/
theorem ofText?_text (valid : t.IsValid) : ofText? t.text = some t := by
  obtain ⟨leap, seconds⟩ := fields_eq valid
  have isValid := Date.isValid_ofDayNumber valid.firstDay_le valid.day_le
  have number := Date.dayNumber_ofDayNumber t.day
  unfold ofText?
  rw [toList_text]
  generalize Date.ofDayNumber t.day = d at *
  obtain ⟨month, day⟩ := Date.isValid_bounds isValid
  have hour : t.second / 3600 ≤ 23 := by
    have := valid.second_lt
    unfold secondsPerDay at this
    omega
  have minute : t.second / 60 % 60 ≤ 59 := by omega
  have second : t.second % 60 + t.nanos / nanosPerSecond ≤ 60 := by
    have := valid.nanos_lt
    unfold nanosPerSecond at *
    omega
  have dash := separator_cons (c := '-') (by decide)
  have colon := separator_cons (c := ':') (by decide)
  have noDash := noDigit_cons (c := '-') (by decide)
  have noT := noDigit_cons (c := 'T') (by decide)
  have noColon := noDigit_cons (c := ':') (by decide)
  have nanos := fraction_fractionText (Nat.mod_lt t.nanos (by decide : 0 < nanosPerSecond))
  have zone : offset (trimStart ['Z']) = some (0, []) := rfl
  -- each part is read up to the character after it
  simp only [year_yearText _ (noDash _), dash, colon, nanos, zone,
    field_padded month (by omega) (noDash _), field_padded day (by omega) (noT _),
    field_padded ⟨Nat.zero_le _, hour⟩ (by omega) (noColon _),
    field_padded ⟨Nat.zero_le _, minute⟩ (by omega) (noColon _),
    field_padded ⟨Nat.zero_le _, second⟩ (by omega) (noDigit_fractionText _),
    bind, Option.bind]
  have ofDay : ((t.second : Int) - 0 * 60) / (secondsPerDay : Int) = 0 := by
    have := valid.second_lt
    unfold secondsPerDay at *
    omega
  have inDay : (((t.second : Int) - 0 * 60) % (secondsPerDay : Int)).toNat = t.second := by
    have := valid.second_lt
    unfold secondsPerDay at *
    omega
  have whole : t.nanos % nanosPerSecond + t.nanos / nanosPerSecond * nanosPerSecond = t.nanos := by
    rw [Nat.mul_comm]
    exact Nat.mod_add_div ..
  simp only [leap, seconds, ofDay, inDay, number, Int.add_zero, whole]
  simp [guard, isValid, valid.firstDay_le, valid.day_le]

end Instants

/-! ## Whatever is read -/

section Read

variable {cs rest : List Char} {n : Nat}

/-- A row of digits has a value below the power of ten of its length. -/
theorem ofDigitChars_lt (digits : ∀ c ∈ cs, isAsciiDigit c = true) (init : Nat) :
    Nat.ofDigitChars 10 cs init < 10 ^ cs.length * (init + 1) := by
  induction cs generalizing init with
  | nil => simp
  | cons c cs ih =>
      obtain ⟨digit, digits⟩ := List.forall_mem_cons.mp digits
      have value : c.toNat - '0'.toNat ≤ 9 := by
        have le : c ≤ '9' := (by simpa [isAsciiDigit] using digit : '0' ≤ c ∧ c ≤ '9').2
        have bound : c.toNat ≤ 0x39 := le
        exact Nat.sub_le_sub_right bound 0x30
      have rest := ih digits (10 * init + (c.toNat - '0'.toNat))
      have grown : 10 ^ cs.length * (10 * init + (c.toNat - '0'.toNat) + 1) ≤
          10 ^ cs.length * (10 * (init + 1)) := Nat.mul_le_mul_left _ (by omega)
      rw [Nat.ofDigitChars_cons, List.length_cons, Nat.pow_succ, Nat.mul_assoc]
      exact rest.trans_le grown

/-- A number takes as many characters from a text as its digits are, and is below their power of
ten. -/
theorem number_bound {width : Nat} (read : number width cs = some (n, rest)) :
    ∃ count, (count ≤ width ∧ rest.length + count = cs.length) ∧ n < 10 ^ count := by
  obtain ⟨m, writes, same⟩ := Option.map_eq_some_iff.mp read
  cases same
  obtain ⟨⟨-, digits⟩, rfl⟩ := natOfDigits?_eq_some_iff.mp writes
  have short := (List.takeWhile_prefix isAsciiDigit (l := cs.take width)).length_le
  rw [List.length_take] at short
  refine ⟨_, ⟨?_, ?_⟩, by simpa using ofDigitChars_lt digits 0⟩
  · omega
  · rw [List.length_drop]
    omega

theorem field_bounds {low high : Nat} (read : field low high cs = some (n, rest)) :
    low ≤ n ∧ n ≤ high := by
  obtain ⟨⟨m, rest'⟩, -, read⟩ := Option.bind_eq_some_iff.mp read
  obtain ⟨_, bounds, read⟩ := Option.bind_eq_some_iff.mp read
  cases read
  exact (Option.guard_eq_some' _).mp bounds

/-- A fraction is less than a second. -/
theorem fraction_lt (read : fraction cs = some (n, rest)) : n < nanosPerSecond := by
  unfold fraction at read
  split at read
  · rename_i digits
    obtain ⟨⟨m, after⟩, value, read⟩ := Option.bind_eq_some_iff.mp read
    cases read
    obtain ⟨read, short, value⟩ := number_bound value
    have count : digits.length - after.length = read := by omega
    rw [count]
    calc m * Nat.pow 10 (9 - read) < 10 ^ read * Nat.pow 10 (9 - read) :=
          Nat.mul_lt_mul_of_pos_right value (Nat.pow_pos (by decide))
      _ = 10 ^ 9 := by rw [Nat.pow_eq, ← Nat.pow_add, Nat.add_sub_cancel' short.1]
      _ = nanosPerSecond := rfl
  · cases read
    decide

/-- Whatever text is read as an instant, the calendar has it. -/
theorem ofText?_isValid {s : String} {t : Instant} (read : ofText? s = some t) : t.IsValid := by
  obtain ⟨⟨year, cs⟩, -, read⟩ := Option.bind_eq_some_iff.mp read
  obtain ⟨⟨_, cs⟩, -, read⟩ := Option.bind_eq_some_iff.mp read
  obtain ⟨⟨month, cs⟩, -, read⟩ := Option.bind_eq_some_iff.mp read
  obtain ⟨⟨_, cs⟩, -, read⟩ := Option.bind_eq_some_iff.mp read
  obtain ⟨⟨day, cs⟩, -, read⟩ := Option.bind_eq_some_iff.mp read
  dsimp only at read
  split at read
  swap
  · cases read
  split at read
  swap
  · cases read
  obtain ⟨cs, -, read⟩ := Option.bind_eq_some_iff.mp read
  obtain ⟨⟨hour, cs⟩, -, read⟩ := Option.bind_eq_some_iff.mp read
  obtain ⟨⟨_, cs⟩, -, read⟩ := Option.bind_eq_some_iff.mp read
  obtain ⟨⟨minute, cs⟩, -, read⟩ := Option.bind_eq_some_iff.mp read
  obtain ⟨⟨_, cs⟩, -, read⟩ := Option.bind_eq_some_iff.mp read
  obtain ⟨⟨second, cs⟩, seconds, read⟩ := Option.bind_eq_some_iff.mp read
  obtain ⟨⟨nanos, cs⟩, fraction, read⟩ := Option.bind_eq_some_iff.mp read
  obtain ⟨⟨zone, cs⟩, -, read⟩ := Option.bind_eq_some_iff.mp read
  obtain ⟨_, -, read⟩ := Option.bind_eq_some_iff.mp read
  obtain ⟨_, -, read⟩ := Option.bind_eq_some_iff.mp read
  obtain ⟨_, -, read⟩ := Option.bind_eq_some_iff.mp read
  obtain ⟨_, range, read⟩ := Option.bind_eq_some_iff.mp read
  cases read
  have bounds := field_bounds seconds
  have small := fraction_lt fraction
  have range := (Option.guard_eq_some' _).mp range
  unfold nanosPerSecond at small
  constructor
  · exact range.1
  · exact range.2
  · dsimp only
    unfold secondsPerDay
    omega
  · dsimp only
    unfold nanosPerSecond
    omega
  · dsimp only
    unfold nanosPerSecond secondsPerDay
    intro leap
    obtain rfl : second = 60 := by omega
    omega

end Read

/-- An instant is read back from its text exactly when the calendar has it. -/
theorem legible_iff {t : Instant} : t.Legible ↔ t.IsValid :=
  ⟨ofText?_isValid, ofText?_text⟩

end AgentTrial.Instant
