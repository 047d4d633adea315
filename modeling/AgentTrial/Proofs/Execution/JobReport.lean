import AgentTrial.Execution
import AgentTrial.Proofs.Text.Blank
import AgentTrial.Proofs.Text.Digit

/-!
# The process in the answer to a launch

A shell reports a background job with a line `[1] 42`. The answer to a launch may hold other lines
and more than one report; the last is the one that counts.

* **Job lines** — `JobLine` tells how such a line is written, and `jobNumber?` reads its number
  (`jobNumber?_trimChars_eq_some_iff`).
* **Last lines** — of the lines that tell something the last one is found from the end
  (`LastLine.iff_findSome?`), job lines as well as those whose number is in bounds.
* **Stale reports** — a number out of bounds is passed over for an earlier line, so the last job line
  decides unless the report before it is stale (`extractPid?_last_job`).
-/

namespace AgentTrial.Execution

open Text

/-! ## Job lines -/

/-- A line that, between its blanks, is a job's number in brackets, blanks, and a number. -/
def JobLine (line number : List Char) : Prop :=
  ∃ job gap, trimChars line = '[' :: (job ++ ']' :: (gap ++ number)) ∧
    IsNumeral job ∧ gap ≠ [] ∧ Blanks gap ∧ IsNumeral number

/-- A job line whose number is in bounds, and the number. -/
def ReportsInBounds (line : List Char) (n : Nat) : Prop :=
  ∃ number, JobLine line number ∧ Writes number n ∧ n < pidBound

section JobLines

variable {line number : List Char} {n : Nat}

theorem jobNumber?_eq_some_iff :
    jobNumber? line = some number ↔
      ∃ job gap, line = '[' :: (job ++ ']' :: (gap ++ number)) ∧
        IsNumeral job ∧ gap ≠ [] ∧ Blanks gap ∧ IsNumeral number := by
  constructor
  · intro read
    unfold jobNumber? at read
    split at read
    · rename_i rest
      dsimp only at read
      split at read
      · rename_i tail dropped
        obtain ⟨⟨someJob, someGap, someNumber, digits⟩, same⟩ :=
          Option.ite_none_right_eq_some.mp read
        cases same
        obtain ⟨jobDigits, -, parts⟩ := takeWhile_dropWhile_iff.mp ⟨rfl, dropped⟩
        refine ⟨_, _, ?_, ⟨someJob, jobDigits⟩, someGap, ?_, someNumber, ?_⟩
        · rw [List.takeWhile_append_dropWhile, ← parts]
        · exact fun c mem => List.mem_takeWhile_imp mem
        · exact List.all_eq_true.mp digits
      · cases read
    · cases read
  · rintro ⟨job, gap, rfl, jobNumeral, someGap, blanks, numeral⟩
    obtain ⟨c, more, rfl⟩ := List.exists_cons_of_ne_nil numeral.1
    have bracket : isDigit ']' = false := by decide
    obtain ⟨taken, dropped⟩ := takeWhile_dropWhile_iff.mpr
      ⟨jobNumeral.2, bracket, Eq.refl (job ++ ']' :: (gap ++ c :: more))⟩
    -- the gap ends where the number begins, since no digit is a blank
    obtain ⟨gapTaken, gapDropped⟩ := takeWhile_dropWhile_iff.mpr
      ⟨blanks, isBlank_of_isDigit (numeral.2 c List.mem_cons_self), Eq.refl (gap ++ c :: more)⟩
    unfold jobNumber?
    simp only [taken, dropped, gapTaken, gapDropped]
    exact if_pos ⟨jobNumeral.1, someGap, numeral.1, List.all_eq_true.mpr numeral.2⟩

theorem jobNumber?_trimChars_eq_some_iff :
    jobNumber? (trimChars line) = some number ↔ JobLine line number :=
  jobNumber?_eq_some_iff

theorem JobLine.isNumeral (job : JobLine line number) : IsNumeral number := by
  obtain ⟨_, _, _, _, _, _, numeral⟩ := job
  exact numeral

theorem boundedNumber?_eq_some_iff :
    (jobNumber? (trimChars line)).bind (boundedNat? pidBound) = some n ↔
      ReportsInBounds line n := by
  rw [Option.bind_eq_some_iff]
  refine exists_congr fun number => ?_
  rw [jobNumber?_trimChars_eq_some_iff]
  exact and_congr_right fun job => job.isNumeral.boundedNat?_eq_some_iff

end JobLines

/-! ## Last lines -/

/-- The last line of a text that tells anything tells `b`. -/
def LastLine {β : Type} (told : List Char → β → Prop) (output : String) (b : β) : Prop :=
  ∃ before line after, output.toList.splitOn '\n' = before ++ line :: after ∧ told line b ∧
    ∀ later ∈ after, ∀ c, ¬told later c

section LastLines

variable {output : String} {number : List Char} {pid : Nat}

/-- What lines tell is found from the end when it is read line by line. -/
theorem LastLine.iff_findSome? {β : Type} {told : List Char → β → Prop}
    {read : List Char → Option β} (reads : ∀ {line b}, read line = some b ↔ told line b) {b : β} :
    LastLine told output b ↔ (output.toList.splitOn '\n').reverse.findSome? read = some b := by
  have silent : ∀ line, read line = none ↔ ∀ c, ¬told line c := fun line => by
    simp only [← reads, Option.eq_none_iff_forall_ne_some, ne_eq]
  rw [List.findSome?_eq_some_iff]
  simp only [LastLine, silent, reads]
  constructor
  · rintro ⟨before, line, after, parts, tells, quiet⟩
    refine ⟨after.reverse, line, before.reverse, by simp [parts], tells, fun later mem => ?_⟩
    exact quiet later (List.mem_reverse.mp mem)
  · rintro ⟨after, line, before, parts, tells, quiet⟩
    refine ⟨before.reverse, line, after.reverse, ?_, tells, fun later mem => ?_⟩
    · rw [← List.reverse_reverse (output.toList.splitOn '\n'), parts]
      simp
    · exact quiet later (List.mem_reverse.mp mem)

theorem LastLine.unique {β : Type} {told : List Char → β → Prop} {read : List Char → Option β}
    (reads : ∀ {line b}, read line = some b ↔ told line b) {b c : β}
    (hb : LastLine told output b) (hc : LastLine told output c) : b = c :=
  Option.some.inj (((LastLine.iff_findSome? reads).mp hb).symm.trans
    ((LastLine.iff_findSome? reads).mp hc))

/-- The number of the last job line, as it is computed. -/
theorem lastJob_iff :
    LastLine JobLine output number ↔
      (output.toList.splitOn '\n').reverse.findSome? (fun line => jobNumber? (trimChars line)) =
        some number :=
  LastLine.iff_findSome? jobNumber?_trimChars_eq_some_iff

/-- The number of the last job line with a number in bounds, as it is computed. -/
theorem lastInBounds_iff :
    LastLine ReportsInBounds output pid ↔
      (output.toList.splitOn '\n').reverse.findSome?
        (fun line => (jobNumber? (trimChars line)).bind (boundedNat? pidBound)) = some pid :=
  LastLine.iff_findSome? boundedNumber?_eq_some_iff

theorem extractPid?_eq_some_iff :
    extractPid? output = some pid ↔ LastLine ReportsInBounds output pid ∧ 0 < pid := by
  have same : ∀ line, jobNumber? (trimChars (dropReturn line)) = jobNumber? (trimChars line) :=
    fun line => by rw [trimChars_dropReturn]
  rw [lastInBounds_iff]
  unfold extractPid?
  dsimp only
  rw [Option.filter_eq_some_iff, decide_eq_true_eq, List.filterMap_reverse,
    filterMap_lines (by decide) same, ← List.filterMap_reverse, ← List.head?_filterMap,
    List.filterMap_filterMap, List.head?_filterMap]

/-- Where any line is a job line there is a last one. -/
theorem exists_lastJob (reports : LastLine ReportsInBounds output pid) :
    ∃ number, LastLine JobLine output number := by
  obtain ⟨before, line, after, parts, ⟨number, job, -, -⟩, -⟩ := reports
  simp only [lastJob_iff, ← Option.isSome_iff_exists, List.findSome?_isSome_iff]
  refine ⟨line, ?_, by simp [jobNumber?_trimChars_eq_some_iff.mpr job]⟩
  simp [parts]

/-- A last job line with a number in bounds is the last such line. -/
theorem LastLine.inBounds (last : LastLine JobLine output number) (writes : Writes number pid)
    (bound : pid < pidBound) : LastLine ReportsInBounds output pid := by
  obtain ⟨before, line, after, parts, job, quiet⟩ := last
  refine ⟨before, line, after, parts, ⟨number, job, writes, bound⟩, ?_⟩
  rintro later mem n ⟨other, job, -, -⟩
  exact quiet later mem other job

end LastLines

/-! ## Stale reports -/

/-- The process that the last job line of a text reports. -/
def LastJobReports (output : String) (pid : Nat) : Prop :=
  ∃ number, LastLine JobLine output number ∧ Writes number pid ∧ 0 < pid ∧ pid < pidBound

/-- A process that an earlier job line reports, where the last one has no number in bounds. -/
def StaleReport (output : String) (pid : Nat) : Prop :=
  LastLine ReportsInBounds output pid ∧ 0 < pid ∧
    ∃ number, LastLine JobLine output number ∧ ∀ n < pidBound, ¬Writes number n

section StaleReports

variable {output : String} {pid : Nat}

theorem extractPid?_of_lastJobReports (reports : LastJobReports output pid) :
    extractPid? output = some pid := by
  obtain ⟨number, last, writes, pos, bound⟩ := reports
  exact extractPid?_eq_some_iff.mpr ⟨last.inBounds writes bound, pos⟩

/-- A stale report is no report of the last job line. -/
theorem StaleReport.not_lastJobReports (stale : StaleReport output pid) :
    ¬LastJobReports output pid := by
  obtain ⟨-, -, number, last, unbounded⟩ := stale
  rintro ⟨other, last', writes, -, bound⟩
  obtain rfl := last'.unique jobNumber?_trimChars_eq_some_iff last
  exact unbounded pid bound writes

theorem lastJobReports_or_staleReport (found : extractPid? output = some pid) :
    LastJobReports output pid ∨ StaleReport output pid := by
  obtain ⟨reports, pos⟩ := extractPid?_eq_some_iff.mp found
  obtain ⟨number, last⟩ := exists_lastJob reports
  by_cases bounded : ∃ n < pidBound, Writes number n
  · obtain ⟨n, bound, writes⟩ := bounded
    obtain rfl := (last.inBounds writes bound).unique boundedNumber?_eq_some_iff reports
    exact .inl ⟨number, last, writes, pos, bound⟩
  · exact .inr ⟨reports, pos, number, last, fun n bound writes => bounded ⟨n, bound, writes⟩⟩

/-- **Last report.** For every answer to a launch:
* the process found is the one that the last job line with a number in bounds reports, unless that
  number is zero;
* it is the one that the last job line reports, whatever this is, exactly when no report is stale: a
  last job line whose number is out of bounds leaves the answer to an earlier one. -/
theorem extractPid?_last_job (output : String) :
    (∀ pid, extractPid? output = some pid ↔ LastLine ReportsInBounds output pid ∧ 0 < pid) ∧
    ((∀ pid, extractPid? output = some pid ↔ LastJobReports output pid) ↔
      ¬∃ pid, StaleReport output pid) := by
  refine ⟨fun pid => extractPid?_eq_some_iff, ?_⟩
  constructor
  · rintro same ⟨pid, stale⟩
    have found := extractPid?_eq_some_iff.mpr ⟨stale.1, stale.2.1⟩
    exact stale.not_lastJobReports ((same pid).mp found)
  · intro fresh pid
    refine ⟨fun found => ?_, extractPid?_of_lastJobReports⟩
    rcases lastJobReports_or_staleReport found with reports | stale
    · exact reports
    · exact absurd ⟨pid, stale⟩ fresh

/-- A process number that is one too large leaves the answer to the report before it. -/
theorem too_large_falls_back :
    LastLine JobLine "[1] 11\n[1] 4294967296" "4294967296".toList ∧
    extractPid? "[1] 11\n[1] 4294967296" = some 11 ∧
    ¬∀ pid, extractPid? "[1] 11\n[1] 4294967296" = some pid ↔
      LastJobReports "[1] 11\n[1] 4294967296" pid := by
  have last : LastLine JobLine "[1] 11\n[1] 4294967296" "4294967296".toList :=
    lastJob_iff.mpr (by decide)
  have found : extractPid? "[1] 11\n[1] 4294967296" = some 11 := by decide
  refine ⟨last, found, fun same => ?_⟩
  obtain ⟨number, last', writes, -, -⟩ := (same 11).mp found
  obtain rfl := last'.unique jobNumber?_trimChars_eq_some_iff last
  have written := natOfDigits?_eq_some_iff_writes.mpr writes
  exact absurd written (by decide)

end StaleReports

end AgentTrial.Execution
