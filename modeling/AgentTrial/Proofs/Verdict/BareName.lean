import AgentTrial.Proofs.Verdict.Report

/-!
# Lines with a bare name

Reports in which some lines have a name before a status without a colon, `name STATUS`.

* **Bare names** — such a line is in neither shape, and nothing is read from it
  (`Bare.reportOf?_eq_none`).
* **Reports with bare names** — the verdict is that of the other lines. So all that is reported is
  kept just when the other lines tell every name that stands bare, and a failure if one stands there
  (`kept_iff`). A failure that only a bare name reports is lost (`bare_failure_lost`).
-/

namespace AgentTrial.Verdict

open Text

/-! ## Bare names -/

/-- A name in one word that is no status and has no colon at its end. -/
structure PlainName (name : String) : Prop where
  filled : name.toList ≠ []
  unbroken : ∀ c ∈ name.toList, isBlank c = false
  open_end : name.toList.getLast? ≠ some ':'
  no_status : ∀ status : TestStatus, name.toList ≠ status.word

/-- A line with a name before a status, `name STATUS`. -/
def Bare (name : String) (status : TestStatus) (line : List Char) : Prop :=
  ∃ left gap right, Blanks left ∧ Blanks gap ∧ Blanks right ∧ gap ≠ [] ∧
    line = left ++ (name.toList ++ gap ++ status.word) ++ right

section BareNames

variable {line cs gap : List Char} {name : String} {status : TestStatus}

/-- A text without blanks is trimmed. -/
theorem trimmed_of_unbroken (unbroken : ∀ c ∈ cs, isBlank c = false) : Trimmed cs :=
  trimmed_iff.mpr
    ⟨fun c first => unbroken c (List.mem_of_head? first),
      fun c last => unbroken c (List.mem_of_getLast? last)⟩

theorem PlainName.isName (plain : PlainName name) : IsName name :=
  ⟨plain.filled, trimmed_of_unbroken plain.unbroken⟩

/-- A plain name cannot be taken for a status and another name. -/
theorem PlainName.tells_statusLast {left right : List Char} (plain : PlainName name)
    (blankLeft : Blanks left) (blankGap : Blanks gap) (blankRight : Blanks right) :
    Tells name status (left ++ (name.toList ++ ([] ++ ':' :: gap) ++ status.word) ++ right) := by
  refine .statusLast blankLeft .nil blankGap blankRight ?_
  rintro ⟨other, c, rest, blank, parts⟩
  rw [List.append_nil] at parts
  have filled := plain.unbroken c (by simp [parts])
  rw [blank] at filled
  cases filled

/-- The first word is no status. -/
theorem PlainName.statusFirst?_eq_none (plain : PlainName name) (blankGap : Blanks gap)
    (apart : gap ≠ []) : statusFirst? (name.toList ++ gap ++ status.word) = none := by
  obtain ⟨c, gap, rfl⟩ := List.exists_cons_of_ne_nil apart
  have cut : cutAtBlank? (name.toList ++ (c :: gap) ++ status.word) =
      some (name.toList, gap ++ status.word) :=
    cutAtBlank?_eq_some_iff.mpr
      ⟨c, blankGap c List.mem_cons_self, plain.unbroken, by simp⟩
  unfold statusFirst?
  rw [cut]
  by_contra read
  obtain ⟨⟨other, status'⟩, read⟩ := Option.ne_none_iff_exists'.mp read
  exact plain.no_status status' (reportFrom?_eq_some_iff.mp read).1

/-- What stands after the last colon begins inside the name and so is more than a status. -/
theorem PlainName.statusLast?_eq_none (plain : PlainName name) (blankGap : Blanks gap)
    (apart : gap ≠ []) : statusLast? (name.toList ++ gap ++ status.word) = none := by
  by_contra read
  obtain ⟨⟨other, status'⟩, read⟩ := Option.ne_none_iff_exists'.mp read
  obtain ⟨front, back, parts, known, -, -⟩ := statusLast?_eq_some_iff.mp read
  have no_colon : ':' ∉ gap ++ status.word := by
    intro mem
    rcases List.mem_append.mp mem with mem | mem
    · exact absurd (blankGap _ mem) (by decide)
    · exact status.colon_not_mem_word mem
  rw [List.append_assoc] at parts
  rcases List.append_eq_append_iff.mp parts with ⟨x, -, behind⟩ | ⟨x, inside, behind⟩
  · exact no_colon (by simp [behind])
  · rcases x with _ | ⟨d, x⟩
    · rw [List.nil_append] at behind
      exact no_colon (by rw [← behind]; exact List.mem_cons_self)
    · rw [List.cons_append] at behind
      obtain ⟨rfl, rest⟩ := List.cons.inj behind
      have tail : x ≠ [] := by
        rintro rfl
        exact plain.open_end (by simp [inside])
      have unbroken : ∀ c ∈ x, isBlank c = false := fun c mem =>
        plain.unbroken c (by simp [inside, mem])
      have core : Trimmed (x ++ gap ++ status.word) :=
        (trimmed_of_unbroken unbroken).append status.word_trimmed tail status.word_ne_nil gap
      obtain ⟨c, gap, rfl⟩ := List.exists_cons_of_ne_nil apart
      rw [rest, ← List.append_assoc, core] at known
      have blank := blankGap c List.mem_cons_self
      have filled := status'.word_not_blank c (by simp [← known])
      rw [blank] at filled
      cases filled

/-- Nothing is read from a line with a bare name. -/
theorem Bare.reportOf?_eq_none (h : Bare name status line) (plain : PlainName name) :
    reportOf? line = none := by
  obtain ⟨left, gap, right, hl, hg, hr, apart, rfl⟩ := h
  have core : Trimmed (name.toList ++ gap ++ status.word) :=
    plain.isName.2.append status.word_trimmed plain.filled status.word_ne_nil gap
  unfold reportOf?
  rw [trimChars_frame hl hr, core, plain.statusFirst?_eq_none hg apart]
  exact plain.statusLast?_eq_none hg apart

end BareNames

/-! ## Reports with bare names -/

/-- Lines of the two shapes, lines with bare names and blank lines, with the reports that the former
tell and those that stand in the lines with bare names. -/
inductive Documented :
    List (List Char) → List (String × TestStatus) → List (String × TestStatus) → Prop where
  | nil : Documented [] [] []
  | blank {line : List Char} {lines : List (List Char)} {told bare : List (String × TestStatus)}
      (blank : Blanks line) (rest : Documented lines told bare) :
      Documented (line :: lines) told bare
  | told {line : List Char} {name : String} {status : TestStatus} {lines : List (List Char)}
      {told bare : List (String × TestStatus)} (plain : PlainName name)
      (tells : Tells name status line) (rest : Documented lines told bare) :
      Documented (line :: lines) ((name, status) :: told) bare
  | bare {line : List Char} {name : String} {status : TestStatus} {lines : List (List Char)}
      {told bare : List (String × TestStatus)} (plain : PlainName name)
      (stands : Bare name status line) (rest : Documented lines told bare) :
      Documented (line :: lines) told ((name, status) :: bare)

/-- Nothing of what is reported is lost: each name has a status, and with a failure the task is not
resolved. -/
def Kept (verdict : Verdict) (reported : List (String × TestStatus)) : Prop :=
  (∃ tests, verdict.tests = some tests ∧ ∀ r ∈ reported, tests.get? r.1 ≠ none) ∧
    ((∃ r ∈ reported, r.2 = .failed) → verdict.resolved = false)

section Reports

variable {lines : List (List Char)} {told bare : List (String × TestStatus)} {policy : EmptyVerdict}

/-- The lines with bare names are passed over. -/
theorem Documented.filterMap_eq (h : Documented lines told bare) :
    lines.filterMap reportOf? = told := by
  induction h with
  | nil => rfl
  | blank blank rest ih =>
      rw [List.filterMap_cons, reportOf?_eq_none_of_blanks blank]
      exact ih
  | told plain tells rest ih => rw [List.filterMap_cons, tells.reportOf?_eq plain.isName, ih]
  | bare plain stands rest ih =>
      rw [List.filterMap_cons, stands.reportOf?_eq_none plain]
      exact ih

/-- With tests and no failure among them the task is resolved. -/
theorem exists_failed_of_not_resolved (some : told ≠ [])
    (unresolved : (verdictOf policy told).resolved = false) : ∃ r ∈ told, r.2 = .failed := by
  by_contra none
  have passed : ∀ r ∈ told, r.2 = .passed := by
    intro r mem
    cases status : r.2 with
    | passed => rfl
    | failed => exact absurd ⟨r, mem, status⟩ none
  have resolved : (verdictOf policy told).resolved = true := by
    refine verdictOf_resolved_iff.mpr ?_
    rw [if_neg some]
    exact passed
  rw [resolved] at unresolved
  cases unresolved

theorem kept_verdictOf_iff :
    Kept (verdictOf policy told) (told ++ bare) ↔
      (∀ r ∈ bare, ∃ other ∈ told, other.1 = r.1) ∧
        ((∃ r ∈ bare, r.2 = .failed) → ∃ r ∈ told, r.2 = .failed) := by
  constructor
  · rintro ⟨⟨tests, these, named⟩, failing⟩
    obtain rfl : told.foldl addReport .empty = tests := Option.some.inj these
    have again : ∀ r ∈ bare, ∃ other ∈ told, other.1 = r.1 := fun r mem =>
      told_iff.mp (named r (List.mem_append_right _ mem))
    refine ⟨again, fun ⟨r, mem, failed⟩ => ?_⟩
    obtain ⟨other, there, -⟩ := again r mem
    exact exists_failed_of_not_resolved (List.ne_nil_of_mem there)
      (failing ⟨r, List.mem_append_right _ mem, failed⟩)
  · rintro ⟨again, failing⟩
    refine ⟨⟨_, rfl, fun r mem => told_iff.mpr ?_⟩, fun ⟨r, mem, failed⟩ => ?_⟩
    · rcases List.mem_append.mp mem with mem | mem
      · exact ⟨r, mem, rfl⟩
      · exact again r mem
    · rcases List.mem_append.mp mem with mem | mem
      · exact not_resolved_of_failed mem failed
      · obtain ⟨other, there, failed⟩ := failing ⟨r, mem, failed⟩
        exact not_resolved_of_failed there failed

/-- A report with bare names comes to the verdict of what its other lines tell. So nothing of it is
lost just when these tell every name that stands bare and, if one stands there with a failure, a
failure too. -/
theorem kept_iff (settings : VerdictSettings) (output : String) (lines : List (List Char))
    (told bare : List (String × TestStatus)) (before after : List Char)
    (format : settings.format = .structured) (documented : Documented lines told bare)
    (unbroken : ∀ line ∈ lines, '\n' ∉ line)
    (block : FirstBlock settings.startMarker.toList settings.endMarker.toList output.toList before
      (['\n'].intercalate lines) after)
    (only : ¬HoldsBlock settings.startMarker.toList settings.endMarker.toList after) :
    (∃ tests, (ofOutput settings output).tests = some tests ∧
      ∀ name, tests.get? name = merged told name) ∧
    ((ofOutput settings output).resolved = true ↔
      if told = [] then settings.emptyVerdict = .resolved else ∀ r ∈ told, r.2 = .passed) ∧
    (Kept (ofOutput settings output) (told ++ bare) ↔
      (∀ r ∈ bare, ∃ other ∈ told, other.1 = r.1) ∧
        ((∃ r ∈ bare, r.2 = .failed) → ∃ r ∈ told, r.2 = .failed)) := by
  have read : reports (['\n'].intercalate lines) = told := by
    rw [reports_intercalate unbroken, documented.filterMap_eq]
  rw [block.ofOutput_eq format only, read]
  exact ⟨⟨_, rfl, get?_foldl_addReport told⟩, verdictOf_resolved_iff, kept_verdictOf_iff⟩

end Reports

/-! ## One report of each kind -/

theorem plainName_a : PlainName "a" :=
  ⟨by decide, unbroken_of_all (by decide), by decide, fun status => by cases status <;> decide⟩

theorem plainName_b : PlainName "b" :=
  ⟨by decide, unbroken_of_all (by decide), by decide, fun status => by cases status <;> decide⟩

/-- A report in which each test is told and stands bare as well. -/
def repeated : List (List Char) :=
  ["a: PASSED".toList, "a PASSED\r".toList, [], "FAILED b".toList, " b\tFAILED".toList]

theorem documented_repeated :
    Documented repeated [("a", .passed), ("b", .failed)] [("a", .passed), ("b", .failed)] := by
  have told_a : Tells "a" .passed "a: PASSED".toList := by
    show Tells "a" .passed
      ([] ++ ("a".toList ++ ([] ++ ':' :: [' ']) ++ TestStatus.passed.word) ++ [])
    exact plainName_a.tells_statusLast .nil (by decide) .nil
  have bare_a : Bare "a" .passed "a PASSED\r".toList :=
    ⟨[], [' '], ['\r'], by decide, by decide, by decide, by decide, by decide⟩
  have told_b : Tells "b" .failed "FAILED b".toList := (reportOf?_eq_some_iff.mp (by decide)).2
  have bare_b : Bare "b" .failed " b\tFAILED".toList :=
    ⟨[' '], ['\t'], [], by decide, by decide, by decide, by decide, by decide⟩
  exact .told plainName_a told_a (.bare plainName_a bare_a (.blank .nil
    (.told plainName_b told_b (.bare plainName_b bare_b .nil))))

/-- Where each test is told as well, its bare name does no harm. -/
theorem kept_iff_repeated :
    bracketed.format = .structured ∧
    Documented repeated [("a", .passed), ("b", .failed)] [("a", .passed), ("b", .failed)] ∧
    (∀ line ∈ repeated, '\n' ∉ line) ∧
    Kept (ofOutput bracketed "log <a: PASSED\na PASSED\r\n\nFAILED b\n b\tFAILED> done")
      [("a", .passed), ("b", .failed), ("a", .passed), ("b", .failed)] := by
  have format : bracketed.format = .structured := rfl
  have unbroken : ∀ line ∈ repeated, '\n' ∉ line := by decide
  have found : firstBlock "<".toList ">".toList
      "log <a: PASSED\na PASSED\r\n\nFAILED b\n b\tFAILED> done".toList =
        some (['\n'].intercalate repeated, " done".toList) := by decide
  obtain ⟨before, block⟩ := firstBlock_eq_some_iff.mp found
  have only : ¬HoldsBlock "<".toList ">".toList " done".toList :=
    firstBlock_eq_none_iff.mp (by decide)
  have kept := (kept_iff bracketed _ repeated [("a", .passed), ("b", .failed)]
    [("a", .passed), ("b", .failed)] before " done".toList format documented_repeated unbroken block
    only).2.2.mpr (by decide)
  exact ⟨format, documented_repeated, unbroken, kept⟩

/-- The output of a script that prints one test in each way. -/
def mixedOutput : String :=
  "SWEBench results starts here\nPASSED a\nb FAILED\nSWEBench results ends here\n"

/-- A failure that stands bare and nowhere else is lost, and the task counts as resolved. -/
theorem bare_failure_lost :
    Documented [[], "PASSED a".toList, "b FAILED".toList, []] [("a", .passed)] [("b", .failed)] ∧
    (∃ before,
      FirstBlock "SWEBench results starts here".toList "SWEBench results ends here".toList
        mixedOutput.toList before
        (['\n'].intercalate [[], "PASSED a".toList, "b FAILED".toList, []]) ['\n']) ∧
    (ofOutput { format := .structured } mixedOutput).resolved = true ∧
    ¬Kept (ofOutput { format := .structured } mixedOutput) [("a", .passed), ("b", .failed)] := by
  have told_a : Tells "a" .passed "PASSED a".toList := (reportOf?_eq_some_iff.mp (by decide)).2
  have bare_b : Bare "b" .failed "b FAILED".toList :=
    ⟨[], [' '], [], by decide, by decide, by decide, by decide, by decide⟩
  have documented :
      Documented [[], "PASSED a".toList, "b FAILED".toList, []] [("a", .passed)] [("b", .failed)] :=
    .blank .nil (.told plainName_a told_a (.bare plainName_b bare_b (.blank .nil .nil)))
  have resolved : (ofOutput { format := .structured } mixedOutput).resolved = true := by
    decide +kernel
  refine ⟨documented, firstBlock_eq_some_iff.mp (by decide +kernel), resolved, fun kept => ?_⟩
  have unresolved := kept.2 ⟨("b", .failed), by decide, rfl⟩
  rw [resolved] at unresolved
  cases unresolved

end AgentTrial.Verdict
