import AgentTrial.Text.Blank
import AgentTrial.Text.Digit
import Mathlib.Data.List.Induction

/-!
# Rows of digits

Where a row of decimal digits ends, and what number it writes.

* **Rows** — digits before a text that starts with none are the first row of digits in the whole
  (`takeWhile_append`, `dropWhile_append`).
* **Numbers** — a row of ASCII digits writes the number whose digits it is, with any zeros before
  them (`natOfDigits?_eq_some_iff_writes`).
* **Numerals** — a row of digits of any scripts has no sign and no blank in it, and only ASCII digits
  write a number (`IsNumeral.boundedNat?_eq_some_iff`).
-/

namespace AgentTrial.Text

/-- A text that no row of digits goes on with. -/
def NoDigit (rest : List Char) : Prop := ∀ c ∈ rest.head?, isAsciiDigit c = false

section Rows

variable {rest : List Char}

theorem NoDigit.takeWhile (noDigit : NoDigit rest) : rest.takeWhile isAsciiDigit = [] := by
  cases rest with
  | nil => rfl
  | cons c rest => exact List.takeWhile_cons_of_neg (by simp [noDigit c rfl])

theorem NoDigit.dropWhile (noDigit : NoDigit rest) : rest.dropWhile isAsciiDigit = rest := by
  cases rest with
  | nil => rfl
  | cons c rest => exact List.dropWhile_cons_of_neg (by simp [noDigit c rfl])

theorem takeWhile_append (noDigit : NoDigit rest) (cs : List Char) :
    (cs ++ rest).takeWhile isAsciiDigit = cs.takeWhile isAsciiDigit := by
  induction cs with
  | nil => simpa using noDigit.takeWhile
  | cons c cs ih => simp only [List.cons_append, List.takeWhile_cons, ih]

theorem dropWhile_append (noDigit : NoDigit rest) (cs : List Char) :
    (cs ++ rest).dropWhile isAsciiDigit = cs.dropWhile isAsciiDigit ++ rest := by
  induction cs with
  | nil => simpa using noDigit.dropWhile
  | cons c cs ih =>
      simp only [List.cons_append, List.dropWhile_cons, ih]
      split <;> rfl

/-- However much is taken of a text without a digit at its start. -/
theorem NoDigit.take (noDigit : NoDigit rest) (n : Nat) : NoDigit (rest.take n) := by
  cases n with
  | zero => nofun
  | succ n =>
    cases rest with
    | nil => nofun
    | cons c rest => exact noDigit

end Rows

section Numbers

theorem isBlank_of_isAsciiDigit {c : Char} (digit : isAsciiDigit c = true) : isBlank c = false := by
  have h : '0' ≤ c ∧ c ≤ '9' := by simpa [isAsciiDigit] using digit
  simp only [Char.le_def, UInt32.le_iff_toNat_le] at h
  have hc : 0x30 ≤ c.toNat ∧ c.toNat ≤ 0x39 := h
  simp [isBlank]
  omega

theorem natOfDigits?_eq_some_iff {cs : List Char} {n : Nat} :
    natOfDigits? cs = some n ↔
      (cs ≠ [] ∧ ∀ c ∈ cs, isAsciiDigit c = true) ∧ Nat.ofDigitChars 10 cs 0 = n := by
  unfold natOfDigits?
  rw [Option.ite_none_right_eq_some, List.all_eq_true, Option.some.injEq]
  rfl

/-- The digits of a number write it, whatever zeros stand before them. -/
theorem natOfDigits?_zeros_toDigits (zeros n : Nat) :
    natOfDigits? (List.replicate zeros '0' ++ Nat.toDigits 10 n) = some n := by
  refine natOfDigits?_eq_some_iff.mpr ⟨⟨by simp, fun c mem => ?_⟩, ?_⟩
  · rcases List.mem_append.mp mem with zero | digit
    · rw [List.eq_of_mem_replicate zero]
      decide
    · exact Nat.isDigit_of_mem_toDigits (by decide) (by decide) digit
  · rw [Nat.ofDigitChars_append, Nat.ofDigitChars_replicate_zero, Nat.mul_zero,
      Nat.ofDigitChars_ten_toDigits]

/-- The digits of a number, with any zeros before them. -/
def Writes (cs : List Char) (n : Nat) : Prop :=
  ∃ zeros, cs = List.replicate zeros '0' ++ Nat.toDigits 10 n

theorem digitChar_of_isAsciiDigit {c : Char} (digit : isAsciiDigit c = true) :
    c.toNat - '0'.toNat < 10 ∧ (c.toNat - '0'.toNat).digitChar = c := by
  have h : '0' ≤ c ∧ c ≤ '9' := by simpa [isAsciiDigit] using digit
  simp only [Char.le_def, UInt32.le_iff_toNat_le] at h
  have hc : 0x30 ≤ c.toNat ∧ c.toNat ≤ 0x39 := h
  have all : ∀ k < 10, k.digitChar = Char.ofNat (0x30 + k) := by decide
  have start : '0'.toNat = 0x30 := rfl
  rw [start]
  refine ⟨by omega, ?_⟩
  rw [all _ (by omega), show 0x30 + (c.toNat - 0x30) = c.toNat by omega, Char.ofNat_toNat]

/-- One digit more. After a zero it is a digit after zeros. -/
theorem Writes.concat {cs : List Char} {n d : Nat} (writes : Writes cs n) (digit : d < 10) :
    Writes (cs ++ [d.digitChar]) (10 * n + d) := by
  obtain ⟨zeros, rfl⟩ := writes
  have last : [d.digitChar] = Nat.toDigits 10 d := (Nat.toDigits_of_lt_base digit).symm
  rcases Nat.eq_zero_or_pos n with rfl | pos
  · refine ⟨zeros + 1, ?_⟩
    rw [last, List.replicate_succ', Nat.mul_zero, Nat.zero_add]
    rfl
  · refine ⟨zeros, ?_⟩
    rw [last, List.append_assoc, Nat.toDigits_append_toDigits (by decide) pos digit]

theorem writes_ofDigitChars {cs : List Char} (some : cs ≠ [])
    (digits : ∀ c ∈ cs, isAsciiDigit c = true) : Writes cs (Nat.ofDigitChars 10 cs 0) := by
  induction cs using List.reverseRecOn with
  | nil => exact absurd rfl some
  | append_singleton init c ih =>
      obtain ⟨small, same⟩ := digitChar_of_isAsciiDigit (digits c (by simp))
      rw [Nat.ofDigitChars_append, Nat.ofDigitChars_cons, Nat.ofDigitChars_nil]
      by_cases first : init = []
      · subst first
        refine ⟨0, ?_⟩
        rw [Nat.ofDigitChars_nil, Nat.mul_zero, Nat.zero_add, Nat.toDigits_of_lt_base small, same]
        rfl
      · have whole := (ih first fun d mem => digits d (List.mem_append_left _ mem)).concat small
        rwa [same] at whole

theorem natOfDigits?_eq_some_iff_writes {cs : List Char} {n : Nat} :
    natOfDigits? cs = some n ↔ Writes cs n := by
  constructor
  · intro read
    obtain ⟨⟨some, digits⟩, rfl⟩ := natOfDigits?_eq_some_iff.mp read
    exact writes_ofDigitChars some digits
  · rintro ⟨zeros, rfl⟩
    exact natOfDigits?_zeros_toDigits zeros n

end Numbers

section Numerals

/-- A row of decimal digits of any scripts, with one at least. -/
def IsNumeral (cs : List Char) : Prop := cs ≠ [] ∧ ∀ c ∈ cs, isDigit c = true

theorem isBlank_of_isDigit {c : Char} (digit : isDigit c = true) : isBlank c = false := by
  obtain ⟨start, mem, run⟩ := List.any_eq_true.mp digit
  have clear : ∀ start ∈ digitZeros, ∀ k < 10, isBlank (Char.ofNat (start + k)) = false := by
    decide +kernel
  have bounds : start ≤ c.toNat ∧ c.toNat < start + 10 := by simpa using run
  have place : start + (c.toNat - start) = c.toNat := by omega
  have same := clear start mem (c.toNat - start) (by omega)
  rwa [place, Char.ofNat_toNat] at same

theorem IsNumeral.boundedNat?_eq_some_iff {cs : List Char} {bound n : Nat}
    (numeral : IsNumeral cs) : boundedNat? bound cs = some n ↔ Writes cs n ∧ n < bound := by
  have unsigned : boundedNat? bound cs = (natOfDigits? cs).filter (· < bound) := by
    unfold boundedNat?
    split
    · exact absurd (numeral.2 '+' List.mem_cons_self) (by decide)
    · rfl
  rw [unsigned, Option.filter_eq_some_iff, natOfDigits?_eq_some_iff_writes, decide_eq_true_eq]

end Numerals

end AgentTrial.Text
