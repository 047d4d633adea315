import AgentTrial.Text.Blank
import Mathlib.Data.List.DropRight

/-!
# Trimming

What trimming takes off a text and what it leaves.

* **Frames** — a text is its trimmed part between blanks (`exists_blanks_around`), and blanks put
  around a text are taken off again (`trimChars_frame`). Both together say when a text trims to a
  given one (`trimChars_eq_iff`).
* **Edges** — a text is trimmed when neither its first nor its last character is a blank
  (`trimmed_iff`), whatever stands between them (`Trimmed.append`).
* **Cuts** — a text is cut in one way at its first character that fails a test
  (`takeWhile_dropWhile_iff`).
* **Lines** — what is told line by line, whatever blanks a line ends in, is told by the pieces
  between line feeds (`filterMap_lines`).
-/

namespace AgentTrial.Text

/-- Nothing but blanks. -/
def Blanks (cs : List Char) : Prop := ∀ c ∈ cs, isBlank c = true

instance (cs : List Char) : Decidable (Blanks cs) :=
  decidable_of_iff (cs.all isBlank = true) List.all_eq_true

/-- A text without blanks at either end. -/
def Trimmed (cs : List Char) : Prop := trimChars cs = cs

instance (cs : List Char) : Decidable (Trimmed cs) :=
  inferInstanceAs (Decidable (trimChars cs = cs))

/-- A text without blanks, as it is computed. -/
theorem unbroken_of_all {cs : List Char} (all : (cs.all fun c => !isBlank c) = true) :
    ∀ c ∈ cs, isBlank c = false := by
  intro c mem
  simpa using List.all_eq_true.mp all c mem

section Frames

variable {cs left right word : List Char}

theorem Blanks.nil : Blanks [] := nofun

theorem Blanks.cons {c : Char} (blank : isBlank c = true) (rest : Blanks cs) :
    Blanks (c :: cs) := by
  intro d mem
  rcases List.mem_cons.mp mem with rfl | mem
  · exact blank
  · exact rest d mem

theorem Blanks.append (hl : Blanks left) (hr : Blanks right) : Blanks (left ++ right) := by
  intro c mem
  rcases List.mem_append.mp mem with mem | mem
  · exact hl c mem
  · exact hr c mem

theorem trimStart_append_left (blanks : Blanks left) : trimStart (left ++ cs) = trimStart cs :=
  List.dropWhile_append_of_pos blanks

theorem trimEnd_append_right (blanks : Blanks right) : trimEnd (cs ++ right) = trimEnd cs := by
  have reversed : ∀ c ∈ right.reverse, isBlank c = true := by
    intro c mem
    exact blanks c (List.mem_reverse.mp mem)
  unfold trimEnd
  rw [List.reverse_append, List.dropWhile_append_of_pos reversed]

theorem trimStart_eq_nil_iff : trimStart cs = [] ↔ Blanks cs :=
  List.dropWhile_eq_nil_iff

theorem trimChars_append_left (blanks : Blanks left) : trimChars (left ++ cs) = trimChars cs := by
  unfold trimChars
  rw [trimStart_append_left blanks]

theorem trimChars_append_right (blanks : Blanks right) :
    trimChars (cs ++ right) = trimChars cs := by
  by_cases only : Blanks cs
  · have all : Blanks (cs ++ right) := only.append blanks
    unfold trimChars
    rw [trimStart_eq_nil_iff.mpr only, trimStart_eq_nil_iff.mpr all]
  · have filled : trimStart cs ≠ [] := fun none => only (trimStart_eq_nil_iff.mp none)
    have start : trimStart (cs ++ right) = trimStart cs ++ right := by
      unfold trimStart at filled ⊢
      rw [List.dropWhile_append, if_neg (by simpa using filled)]
    unfold trimChars
    rw [start, trimEnd_append_right blanks]

/-- Blanks around a text are taken off. -/
theorem trimChars_frame (hl : Blanks left) (hr : Blanks right) :
    trimChars (left ++ cs ++ right) = trimChars cs := by
  rw [trimChars_append_right hr, trimChars_append_left hl]

/-- A text is its trimmed part between blanks. -/
theorem exists_blanks_around (cs : List Char) :
    ∃ left right, Blanks left ∧ Blanks right ∧ cs = left ++ trimChars cs ++ right := by
  refine ⟨cs.takeWhile isBlank, (trimStart cs).rtakeWhile isBlank, ?_, ?_, ?_⟩
  · intro c mem
    exact List.mem_takeWhile_imp mem
  · intro c mem
    exact List.mem_rtakeWhile_imp mem
  · have tail : trimChars cs ++ (trimStart cs).rtakeWhile isBlank = trimStart cs :=
      List.rdropWhile_append_rtakeWhile
    rw [List.append_assoc, tail]
    exact List.takeWhile_append_dropWhile.symm

theorem trimChars_eq_nil_iff : trimChars cs = [] ↔ Blanks cs := by
  constructor
  · intro none
    obtain ⟨left, right, hl, hr, parts⟩ := exists_blanks_around cs
    rw [none, List.append_nil] at parts
    exact parts ▸ hl.append hr
  · intro blanks
    unfold trimChars
    rw [trimStart_eq_nil_iff.mpr blanks]
    rfl

/-- The texts that trim to a given one are that one between blanks. -/
theorem trimChars_eq_iff (trimmed : Trimmed word) :
    trimChars cs = word ↔
      ∃ left right, Blanks left ∧ Blanks right ∧ cs = left ++ word ++ right := by
  constructor
  · rintro rfl
    exact exists_blanks_around cs
  · rintro ⟨left, right, hl, hr, rfl⟩
    rw [trimChars_frame hl hr, trimmed]

end Frames

section Edges

variable {cs left right : List Char}

theorem length_trimChars_le (cs : List Char) : (trimChars cs).length ≤ cs.length := by
  obtain ⟨left, right, -, -, parts⟩ := exists_blanks_around cs
  have lengths := congrArg List.length parts
  simp only [List.length_append] at lengths
  omega

/-- What is left of a text is trimmed. -/
theorem trimmed_trimChars (cs : List Char) : Trimmed (trimChars cs) := by
  obtain ⟨left, right, hl, hr, parts⟩ := exists_blanks_around cs
  have same := congrArg trimChars parts
  rw [trimChars_frame hl hr] at same
  exact same.symm

/-- A text is trimmed when neither its first nor its last character is a blank. -/
theorem trimmed_iff :
    Trimmed cs ↔
      (∀ c ∈ cs.head?, isBlank c = false) ∧ (∀ c ∈ cs.getLast?, isBlank c = false) := by
  constructor
  · intro trimmed
    have length : (trimChars cs).length = cs.length := congrArg List.length trimmed
    refine ⟨fun c first => ?_, fun c last => ?_⟩
    · obtain ⟨rest, rfl⟩ := List.head?_eq_some_iff.mp first
      by_contra blank
      have single : Blanks [c] := Blanks.nil.cons (by simpa using blank)
      have shorter : trimChars (c :: rest) = trimChars rest := trimChars_append_left single
      have bound := length_trimChars_le rest
      rw [shorter, List.length_cons] at length
      omega
    · obtain ⟨init, rfl⟩ := List.getLast?_eq_some_iff.mp last
      by_contra blank
      have shorter : trimChars (init ++ [c]) = trimChars init :=
        trimChars_append_right (Blanks.nil.cons (by simpa using blank))
      have bound := length_trimChars_le init
      rw [shorter, List.length_append, List.length_singleton] at length
      omega
  · rintro ⟨first, last⟩
    have start : trimStart cs = cs := by
      refine List.dropWhile_eq_self_iff.mpr fun some => ?_
      simpa using first cs[0] (by simp [List.head?_eq_getElem?])
    have stop : trimEnd cs = cs := by
      refine List.rdropWhile_eq_self_iff.mpr fun some => ?_
      simpa using last (cs.getLast some) (by simp [List.getLast?_eq_some_getLast some])
    unfold Trimmed trimChars
    rw [start, stop]

/-- What stands between two trimmed texts does not matter. -/
theorem Trimmed.append (hl : Trimmed left) (hr : Trimmed right) (left_some : left ≠ [])
    (right_some : right ≠ []) (between : List Char) : Trimmed (left ++ between ++ right) := by
  rw [trimmed_iff] at hl hr ⊢
  refine ⟨fun c first => hl.1 c ?_, fun c last => hr.2 c ?_⟩
  · rwa [List.append_assoc, List.head?_append_of_ne_nil left left_some] at first
  · rwa [List.getLast?_append_of_ne_nil _ right_some] at last

end Edges

/-- A text in front of its first character that fails a test, and what is from there on. -/
theorem takeWhile_dropWhile_iff {line word rest : List Char} {p : Char → Bool} {c : Char} :
    line.takeWhile p = word ∧ line.dropWhile p = c :: rest ↔
      (∀ d ∈ word, p d = true) ∧ p c = false ∧ line = word ++ c :: rest := by
  constructor
  · rintro ⟨rfl, dropped⟩
    refine ⟨fun d mem => List.mem_takeWhile_imp mem, ?_, ?_⟩
    · have stop := List.head?_dropWhile_not p line
      rw [dropped] at stop
      exact stop
    · rw [← dropped]
      exact List.takeWhile_append_dropWhile.symm
  · rintro ⟨passes, stop, rfl⟩
    rw [List.takeWhile_append_of_pos passes, List.dropWhile_append_of_pos passes]
    simp [stop]

section Lines

variable {α : Type} {told : List Char → Option α}

/-- The carriage return that belongs to a line break is a blank at the end of the line. -/
theorem trimChars_dropReturn (line : List Char) : trimChars (dropReturn line) = trimChars line := by
  unfold dropReturn
  split
  · rename_i ends
    obtain ⟨init, rfl⟩ := List.getLast?_eq_some_iff.mp ends
    have blank : Blanks ['\r'] := Blanks.nil.cons (by decide)
    rw [List.dropLast_concat, trimChars_append_right blank]
  · rfl

/-- How a line ends, and whether the last one does, makes no difference to what the lines tell, if a
carriage return at the end of one tells nothing and neither does an empty line. -/
theorem filterMap_linesOfPieces (silent : told [] = none)
    (same : ∀ line, told (dropReturn line) = told line) (pieces : List (List Char)) :
    (linesOfPieces pieces).filterMap told = pieces.filterMap told := by
  induction pieces with
  | nil => rfl
  | cons piece rest ih =>
      cases rest with
      | nil =>
          unfold linesOfPieces
          split
          · rename_i empty
            rw [List.isEmpty_iff.mp empty, List.filterMap_cons_none silent]
          · rfl
      | cons next rest =>
          unfold linesOfPieces
          rw [List.filterMap_cons, List.filterMap_cons, ih, same]

theorem filterMap_lines (silent : told [] = none)
    (same : ∀ line, told (dropReturn line) = told line) (cs : List Char) :
    (lines cs).filterMap told = (cs.splitOn '\n').filterMap told :=
  filterMap_linesOfPieces silent same (cs.splitOn '\n')

end Lines

end AgentTrial.Text
