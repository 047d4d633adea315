import AgentTrial.Proofs.Text.Blank
import AgentTrial.Verdict.Report
import Mathlib.Tactic.Cases

/-!
# Lines of a report

What a line of a report says, told by how it is written and not by how it is read.

* **Writing** — `Tells` has one constructor for each of the two shapes, a status before a name and a
  name before a colon and a status, with blanks around the line and between its parts.
* **Reading** — the first shape is tried first. `reportOf?` reads from a line what is written there,
  and nothing from a line that is written otherwise (`reportOf?_eq_some_iff`,
  `reportOf?_eq_none_iff`).
-/

namespace AgentTrial

namespace TestStatus

/-- The word for a status. -/
def word : TestStatus → List Char
  | .passed => "PASSED".toList
  | .failed => "FAILED".toList

theorem ofWord?_eq_some_iff {text : List Char} {status : TestStatus} :
    ofWord? text = some status ↔ text = status.word := by
  constructor
  · intro read
    unfold ofWord? at read
    split at read
    · cases read
      assumption
    · split at read
      · cases read
        assumption
      · cases read
  · rintro rfl
    cases status <;> rfl

theorem word_ne_nil (status : TestStatus) : status.word ≠ [] := by
  cases status <;> decide

theorem word_trimmed (status : TestStatus) : Text.Trimmed status.word := by
  cases status <;> decide

theorem word_not_blank (status : TestStatus) : ∀ c ∈ status.word, Text.isBlank c = false :=
  Text.unbroken_of_all (by cases status <;> decide)

theorem colon_not_mem_word (status : TestStatus) : ':' ∉ status.word := by
  cases status <;> decide

end TestStatus

namespace Verdict

open Text

/-! ## Writing -/

/-- A name that can be reported: more than blanks, and no blanks around it. -/
def IsName (name : String) : Prop := name.toList ≠ [] ∧ Trimmed name.toList

instance (name : String) : Decidable (IsName name) :=
  inferInstanceAs (Decidable (name.toList ≠ [] ∧ Trimmed name.toList))

/-- A text that begins with the word for a status and a blank. -/
def BeginsWithStatus (cs : List Char) : Prop :=
  ∃ (status : TestStatus) (c : Char) (rest : List Char),
    isBlank c = true ∧ cs = status.word ++ c :: rest

/-- How a line is written that says how a test ended. -/
inductive Tells (name : String) (status : TestStatus) : List Char → Prop where
  /-- `STATUS name`. -/
  | statusFirst {left gap right : List Char} (blankLeft : Blanks left) (blankGap : Blanks gap)
      (blankRight : Blanks right) (apart : gap ≠ []) :
      Tells name status (left ++ (status.word ++ gap ++ name.toList) ++ right)
  /-- `name: STATUS`, where the name and the blanks up to the colon do not begin with a status word
  and a blank: such a line is of the first shape. -/
  | statusLast {left before gap right : List Char} (blankLeft : Blanks left)
      (blankBefore : Blanks before) (blankGap : Blanks gap) (blankRight : Blanks right)
      (plain : ¬BeginsWithStatus (name.toList ++ before)) :
      Tells name status (left ++ (name.toList ++ (before ++ ':' :: gap) ++ status.word) ++ right)

/-- A line that is in neither shape, whatever blanks it has. -/
def Silent (line : List Char) : Prop :=
  ∀ name status, IsName name → ¬Tells name status line

/-! ## Cutting a line -/

section Cuts

variable {line word name rest : List Char} {report : String} {status : TestStatus}

theorem cutAtBlank?_eq_some_iff :
    cutAtBlank? line = some (word, rest) ↔
      ∃ c, isBlank c = true ∧ (∀ d ∈ word, isBlank d = false) ∧ line = word ++ c :: rest := by
  unfold cutAtBlank?
  constructor
  · intro read
    split at read
    · rename_i c tail dropped
      obtain ⟨taken, rfl⟩ := Prod.mk.inj (Option.some.inj read)
      obtain ⟨passes, stop, parts⟩ := takeWhile_dropWhile_iff.mp ⟨taken, dropped⟩
      exact ⟨c, by simpa using stop, by simpa using passes, parts⟩
    · cases read
  · rintro ⟨c, blank, filled, parts⟩
    obtain ⟨taken, dropped⟩ := takeWhile_dropWhile_iff.mpr
      ⟨fun d mem => show (!isBlank d) = true by simp [filled d mem],
        show (!isBlank c) = false by simp [blank], parts⟩
    rw [dropped, taken]

theorem cutAtLastColon?_eq_some_iff :
    cutAtLastColon? line = some (name, rest) ↔ ':' ∉ rest ∧ line = name ++ ':' :: rest := by
  unfold cutAtLastColon?
  constructor
  · intro read
    split at read
    · rename_i c before dropped
      obtain ⟨rfl, rfl⟩ := Prod.mk.inj (Option.some.inj read)
      obtain ⟨passes, stop, parts⟩ := takeWhile_dropWhile_iff.mp ⟨rfl, dropped⟩
      have colon : c = ':' := by simpa using stop
      subst colon
      refine ⟨fun mem => ?_, ?_⟩
      · simpa using passes ':' (List.mem_reverse.mp mem)
      · have reversed := congrArg List.reverse parts
        simpa using reversed
    · cases read
  · rintro ⟨last, rfl⟩
    have passes : ∀ d ∈ rest.reverse, (d != ':') = true := by
      intro d mem
      have other : d ≠ ':' := by
        rintro rfl
        exact last (List.mem_reverse.mp mem)
      simpa using other
    obtain ⟨taken, dropped⟩ := takeWhile_dropWhile_iff.mpr
      ⟨passes, show (':' != ':') = false by decide, show
        (name ++ ':' :: rest).reverse = rest.reverse ++ ':' :: name.reverse by simp⟩
    rw [dropped, taken]
    simp

theorem reportFrom?_eq_some_iff :
    reportFrom? name word = some (report, status) ↔
      word = status.word ∧ ¬Blanks name ∧ report.toList = trimChars name := by
  unfold reportFrom?
  constructor
  · intro read
    split at read
    · rename_i known
      split at read
      · cases read
      · rename_i filled
        obtain ⟨rfl, rfl⟩ := Prod.mk.inj (Option.some.inj read)
        exact ⟨TestStatus.ofWord?_eq_some_iff.mp known, fun blank => filled
          (trimChars_eq_nil_iff.mpr blank), String.toList_ofList⟩
    · cases read
  · rintro ⟨rfl, filled, same⟩
    rw [TestStatus.ofWord?_eq_some_iff.mpr rfl]
    simp only [if_neg (fun none => filled (trimChars_eq_nil_iff.mp none))]
    rw [← same, String.ofList_toList]

theorem statusFirst?_eq_some_iff :
    statusFirst? line = some (report, status) ↔
      ∃ c rest, isBlank c = true ∧ line = status.word ++ c :: rest ∧ ¬Blanks rest ∧
        report.toList = trimChars rest := by
  unfold statusFirst?
  constructor
  · intro read
    split at read
    · rename_i word rest cut
      obtain ⟨c, blank, -, parts⟩ := cutAtBlank?_eq_some_iff.mp cut
      obtain ⟨rfl, filled, same⟩ := reportFrom?_eq_some_iff.mp read
      exact ⟨c, rest, blank, parts, filled, same⟩
    · cases read
  · rintro ⟨c, rest, blank, parts, filled, same⟩
    rw [cutAtBlank?_eq_some_iff.mpr ⟨c, blank, status.word_not_blank, parts⟩]
    exact reportFrom?_eq_some_iff.mpr ⟨rfl, filled, same⟩

theorem statusLast?_eq_some_iff :
    statusLast? line = some (report, status) ↔
      ∃ front back, line = front ++ ':' :: back ∧ trimChars back = status.word ∧ ¬Blanks front ∧
        report.toList = trimChars front := by
  unfold statusLast?
  constructor
  · intro read
    split at read
    · rename_i front back cut
      obtain ⟨-, parts⟩ := cutAtLastColon?_eq_some_iff.mp cut
      obtain ⟨known, filled, same⟩ := reportFrom?_eq_some_iff.mp read
      exact ⟨front, back, parts, known, filled, same⟩
    · cases read
  · rintro ⟨front, back, parts, known, filled, same⟩
    have last : ':' ∉ back := by
      obtain ⟨left, right, hl, hr, whole⟩ := exists_blanks_around back
      rw [whole, known]
      intro mem
      have colon : isBlank ':' = false := by decide
      rcases List.mem_append.mp mem with mem | mem
      · rcases List.mem_append.mp mem with mem | mem
        · exact absurd (hl _ mem) (by simp [colon])
        · exact status.colon_not_mem_word mem
      · exact absurd (hr _ mem) (by simp [colon])
    rw [cutAtLastColon?_eq_some_iff.mpr ⟨last, parts⟩]
    exact reportFrom?_eq_some_iff.mpr ⟨known, filled, same⟩

end Cuts

/-! ## Reading -/

section Reading

variable {line front rest : List Char} {name : String} {status : TestStatus}

/-- Only the text between the blanks around a line counts. -/
theorem reportOf?_of_trimChars_eq {line' : List Char} (same : trimChars line = trimChars line') :
    reportOf? line = reportOf? line' := by
  unfold reportOf?
  rw [same]

theorem reportOf?_eq_none_of_blanks (blank : Blanks line) : reportOf? line = none := by
  rw [reportOf?_of_trimChars_eq (show trimChars line = trimChars [] from
    trimChars_eq_nil_iff.mpr blank)]
  decide

/-- A line that begins with a status word and a blank is of the first shape. -/
theorem statusFirst?_of_begins (begins : BeginsWithStatus front) (filled : ¬Blanks rest) :
    statusFirst? (front ++ rest) ≠ none := by
  obtain ⟨status, c, more, blank, rfl⟩ := begins
  have filled' : ¬Blanks (more ++ rest) := fun blank =>
    filled fun d mem => blank d (List.mem_append_right _ mem)
  have read : statusFirst? (status.word ++ c :: more ++ rest) =
      some (String.ofList (trimChars (more ++ rest)), status) :=
    statusFirst?_eq_some_iff.mpr ⟨c, more ++ rest, blank, by simp, filled', String.toList_ofList⟩
  rw [read]
  exact Option.some_ne_none _

/-- A line of the first shape begins with a status word and a blank, and these stand before any
colon. -/
theorem begins_of_statusFirst? (read : statusFirst? (front ++ ':' :: rest) ≠ none) :
    BeginsWithStatus front := by
  obtain ⟨⟨name, status⟩, read⟩ := Option.ne_none_iff_exists'.mp read
  obtain ⟨c, more, blank, parts, -, -⟩ := statusFirst?_eq_some_iff.mp read
  have parts' : front ++ ':' :: rest = (status.word ++ [c]) ++ more := by
    rw [parts]
    simp
  rcases List.append_eq_append_iff.mp parts' with ⟨x, word, tail⟩ | ⟨x, parts, -⟩
  · -- the colon would have to stand in the word or be the blank
    cases x with
    | nil =>
        refine ⟨status, c, [], blank, ?_⟩
        simpa using word.symm
    | cons d x =>
        obtain ⟨rfl, -⟩ := List.cons.inj tail
        have mem : ':' ∈ status.word ++ [c] := by
          rw [word]
          simp
        rcases List.mem_append.mp mem with mem | mem
        · exact absurd mem status.colon_not_mem_word
        · have colon : ':' = c := List.mem_singleton.mp mem
          rw [← colon] at blank
          exact absurd blank (by decide)
  · refine ⟨status, c, x, blank, ?_⟩
    rw [parts]
    simp

/-- What is left of a text that holds more than blanks is a name. -/
theorem isName_of_trimChars {cs : List Char} (filled : ¬Blanks cs)
    (same : name.toList = trimChars cs) : IsName name := by
  constructor
  · rw [same]
    exact fun none => filled (trimChars_eq_nil_iff.mp none)
  · rw [same]
    exact trimmed_trimChars cs

/-- What is told in a line is read from it. -/
theorem Tells.reportOf?_eq (h : Tells name status line) (named : IsName name) :
    reportOf? line = some (name, status) := by
  obtain ⟨filled, trimmed⟩ := named
  unfold reportOf?
  cases h with
  | @statusFirst left gap right blankLeft blankGap blankRight apart =>
      have core : Trimmed (status.word ++ gap ++ name.toList) :=
        status.word_trimmed.append trimmed status.word_ne_nil filled gap
      rw [trimChars_frame blankLeft blankRight, core]
      obtain ⟨c, gap, rfl⟩ := List.exists_cons_of_ne_nil apart
      have rest : trimChars (gap ++ name.toList) = name.toList := by
        rw [trimChars_append_left fun d mem => blankGap d (List.mem_cons_of_mem _ mem), trimmed]
      have first : statusFirst? (status.word ++ (c :: gap) ++ name.toList) =
          some (name, status) := by
        refine statusFirst?_eq_some_iff.mpr ⟨c, gap ++ name.toList, ?_, by simp, ?_, rest.symm⟩
        · exact blankGap c List.mem_cons_self
        · intro blank
          rw [trimChars_eq_nil_iff.mpr blank] at rest
          exact filled rest.symm
      rw [first]
  | @statusLast left before gap right blankLeft blankBefore blankGap blankRight plain =>
      have core : Trimmed (name.toList ++ (before ++ ':' :: gap) ++ status.word) :=
        trimmed.append status.word_trimmed filled status.word_ne_nil _
      have parts : name.toList ++ (before ++ ':' :: gap) ++ status.word =
          (name.toList ++ before) ++ ':' :: (gap ++ status.word) := by simp
      rw [trimChars_frame blankLeft blankRight, core, parts]
      have first : statusFirst? ((name.toList ++ before) ++ ':' :: (gap ++ status.word)) =
          none := by
        by_contra read
        exact plain (begins_of_statusFirst? read)
      have front : trimChars (name.toList ++ before) = name.toList := by
        rw [trimChars_append_right blankBefore, trimmed]
      have last : statusLast? ((name.toList ++ before) ++ ':' :: (gap ++ status.word)) =
          some (name, status) := by
        refine statusLast?_eq_some_iff.mpr ⟨_, _, rfl, ?_, ?_, front.symm⟩
        · rw [trimChars_append_left blankGap, status.word_trimmed]
        · intro blank
          rw [trimChars_eq_nil_iff.mpr blank] at front
          exact filled front.symm
      rw [first, last]

theorem tells_of_statusFirst? (read : statusFirst? (trimChars line) = some (name, status)) :
    IsName name ∧ Tells name status line := by
  obtain ⟨left, right, hl, hr, whole⟩ := exists_blanks_around line
  obtain ⟨c, rest, blank, parts, filled, same⟩ := statusFirst?_eq_some_iff.mp read
  obtain ⟨inner, outer, hi, ho, restParts⟩ := exists_blanks_around rest
  have shape : line = left ++ (status.word ++ (c :: inner) ++ name.toList) ++ (outer ++ right) := by
    rw [whole, parts, restParts, ← same]
    simp
  refine ⟨isName_of_trimChars filled same, ?_⟩
  rw [shape]
  exact .statusFirst hl (hi.cons blank) (ho.append hr) (by simp)

/-- The second shape is told only by lines that are not of the first. -/
theorem tells_of_statusLast? (first : statusFirst? (trimChars line) = none)
    (read : statusLast? (trimChars line) = some (name, status)) :
    IsName name ∧ Tells name status line := by
  obtain ⟨left, right, hl, hr, whole⟩ := exists_blanks_around line
  obtain ⟨front, back, parts, known, filled, same⟩ := statusLast?_eq_some_iff.mp read
  obtain ⟨inner, before, hi, hb, frontParts⟩ := exists_blanks_around front
  obtain ⟨gap, outer, hg, ho, backParts⟩ := exists_blanks_around back
  have named := isName_of_trimChars filled same
  have shape : line = (left ++ inner) ++
      (name.toList ++ (before ++ ':' :: gap) ++ status.word) ++ (outer ++ right) := by
    rw [whole, parts, frontParts, backParts, ← same, known]
    simp
  have core : trimChars line = (name.toList ++ before) ++ (':' :: gap ++ status.word) := by
    rw [shape, trimChars_frame (hl.append hi) (ho.append hr),
      named.2.append status.word_trimmed named.1 status.word_ne_nil]
    simp
  have colon : ¬Blanks (':' :: gap ++ status.word) := fun blank =>
    absurd (blank ':' List.mem_cons_self) (by decide)
  refine ⟨named, ?_⟩
  rw [shape]
  refine .statusLast (hl.append hi) hb hg (ho.append hr) fun begins => ?_
  rw [core] at first
  exact statusFirst?_of_begins begins colon first

/-- A line reports what is told in it, in one shape or the other. -/
theorem reportOf?_eq_some_iff :
    reportOf? line = some (name, status) ↔ IsName name ∧ Tells name status line := by
  constructor
  · intro read
    unfold reportOf? at read
    split at read
    · rename_i first
      cases read
      exact tells_of_statusFirst? first
    · rename_i first
      exact tells_of_statusLast? first read
  · rintro ⟨named, tells⟩
    exact tells.reportOf?_eq named

/-- Nothing is read from the lines in neither shape, and from no others. -/
theorem reportOf?_eq_none_iff : reportOf? line = none ↔ Silent line := by
  constructor
  · intro none name status named tells
    rw [tells.reportOf?_eq named] at none
    cases none
  · intro silent
    by_contra read
    obtain ⟨⟨name, status⟩, read⟩ := Option.ne_none_iff_exists'.mp read
    obtain ⟨named, tells⟩ := reportOf?_eq_some_iff.mp read
    exact silent name status named tells

end Reading

end Verdict

end AgentTrial
