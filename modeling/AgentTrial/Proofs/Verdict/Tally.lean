import AgentTrial.Proofs.Verdict.Report

/-!
# What a report adds up to

The verdict of a report with one line per test, for every text that a block can be.

* **Reports** — a block reports what its lines do, each for itself (`reported_iff`).
* **Order** — the tests of a block are settled by what is reported, in whatever order and however
  often (`foldl_addReport_congr`).
* **Tally** — so a test has failed when a line says so, a failure leaves the task unresolved, and
  without one block to read there is no test and nothing is resolved, whatever the policy
  (`report_tally`).
-/

namespace AgentTrial.Verdict

/-! ## Reports -/

/-- Some line of a block makes a report. -/
def Reported (block : List Char) (report : String × TestStatus) : Prop :=
  ∃ line ∈ Text.lines block, reportOf? line = some report

instance (block : List Char) (report : String × TestStatus) : Decidable (Reported block report) :=
  inferInstanceAs (Decidable (∃ line ∈ Text.lines block, reportOf? line = some report))

/-- Lines of nothing but blanks are passed over, and they report nothing. -/
theorem reported_iff {block : List Char} {report : String × TestStatus} :
    Reported block report ↔ report ∈ reports block := by
  unfold reports filledLines
  rw [List.mem_filterMap]
  constructor
  · rintro ⟨line, mem, read⟩
    refine ⟨line, List.mem_filter.mpr ⟨mem, ?_⟩, read⟩
    rw [Bool.not_eq_true']
    refine Bool.eq_false_iff.mpr fun blank => ?_
    rw [reportOf?_eq_none_of_blanks (List.all_eq_true.mp blank)] at read
    cases read
  · rintro ⟨line, mem, read⟩
    exact ⟨line, List.mem_of_mem_filter mem, read⟩

/-! ## Order -/

section Order

variable {told told' : List (String × TestStatus)}

theorem merged_congr (same : ∀ report, report ∈ told ↔ report ∈ told') (name : String) :
    merged told name = merged told' name := by
  unfold merged
  simp only [same]

/-- **Order.** Reports are added up to the same tests in any order and with any repetitions. -/
theorem foldl_addReport_congr (same : ∀ report, report ∈ told ↔ report ∈ told') :
    told.foldl addReport .empty = told'.foldl addReport .empty := by
  refine Dict.ext_get? fun name => ?_
  rw [get?_foldl_addReport, get?_foldl_addReport, merged_congr same]

end Order

/-- A test has failed when one of its reports says so. -/
theorem merged_eq_failed_iff {told : List (String × TestStatus)} {name : String} :
    merged told name = some .failed ↔ (name, .failed) ∈ told :=
  ⟨mem_of_merged, merged_of_failed⟩

/-! ## Tally -/

/-- What the verdict on a block says of its tests. -/
structure Tallies (policy : EmptyVerdict) (block : List Char) (verdict : Verdict)
    (tests : Dict TestStatus) : Prop where
  listed : verdict.tests = some tests
  /-- The tests are those that some line reports. -/
  named : ∀ name, tests.get? name ≠ none ↔ ∃ status, Reported block (name, status)
  /-- A test has failed when at least one line says so. -/
  failed : ∀ name, tests.get? name = some .failed ↔ Reported block (name, .failed)
  /-- The task is resolved by tests that have all passed, and by no tests where the policy has it
  so. -/
  resolved : verdict.resolved = true ↔
    (tests.entries ≠ [] ∧ ∀ p ∈ tests.entries, p.2 = .passed) ∨
      (tests.entries = [] ∧ policy = .resolved)

section Tally

variable {settings : VerdictSettings} {output : String} {block : List Char}

theorem verdictOf_tallies (policy : EmptyVerdict) (block : List Char) :
    Tallies policy block (verdictOf policy (reports block))
      ((reports block).foldl addReport .empty) where
  listed := rfl
  named name := by
    rw [told_iff]
    constructor
    · rintro ⟨⟨_, status⟩, mem, rfl⟩
      exact ⟨status, reported_iff.mpr mem⟩
    · rintro ⟨status, reported⟩
      exact ⟨_, reported_iff.mp reported, rfl⟩
  failed name := by rw [get?_foldl_addReport, merged_eq_failed_iff, reported_iff]
  resolved := by
    unfold verdictOf
    rw [isResolved_iff]
    by_cases none : ((reports block).foldl addReport .empty).entries = []
    · simp [none]
    · simp [none]

/-- The verdict on an output is that of the reports in its only block. -/
theorem ofOutput_of_onlyBlock (format : settings.format = .structured)
    (only : onlyBlock settings.startMarker settings.endMarker output = .ok block) :
    ofOutput settings output = verdictOf settings.emptyVerdict (reports block) := by
  unfold ofOutput read ofBlock testsOf
  rw [only, format]
  rfl

/-- An output that has another number of blocks than one has no usable block. -/
theorem ofOutput_of_blocks
    (other : (blocks settings.startMarker.toList settings.endMarker.toList output.toList).length ≠ 1) :
    ofOutput settings output = unresolved := by
  unfold ofOutput read onlyBlock
  split
  · rename_i inner only
    split at only
    · cases only
    · rename_i single
      rw [single] at other
      exact absurd rfl other
    · cases only
  · rfl

/-- **Tally.** For every text that the only block of an output can be, and every policy for reports
without tests:

* the tests are those that some line reports, each of them failed when at least one line says so;
  and they resolve the task if they have all passed, or where there are none if the policy has it
  so;
* two outputs whose blocks report the same, in any order and with any repetitions, have the same
  verdict;
* with a line that reports a failure, wherever it is added, the task is not resolved.

Where there is no block or more than one, the task is unresolved and there are no tests. -/
theorem report_tally (settings : VerdictSettings) (format : settings.format = .structured) :
    let only := onlyBlock settings.startMarker settings.endMarker
    (∀ output block, only output = .ok block →
      ∃ tests, Tallies settings.emptyVerdict block (ofOutput settings output) tests) ∧
    (∀ output output' block block', only output = .ok block → only output' = .ok block' →
      (∀ report, Reported block report ↔ Reported block' report) →
        ofOutput settings output = ofOutput settings output') ∧
    (∀ output block name, only output = .ok block → Reported block (name, .failed) →
      (ofOutput settings output).resolved = false) ∧
    ∀ output,
      (blocks settings.startMarker.toList settings.endMarker.toList output.toList).length ≠ 1 →
        ofOutput settings output = ⟨false, none⟩ := by
  refine ⟨fun output block only => ?_, fun output output' block block' only only' same => ?_,
    fun output block name only failed => ?_, fun output none => ofOutput_of_blocks none⟩
  · rw [ofOutput_of_onlyBlock format only]
    exact ⟨_, verdictOf_tallies _ block⟩
  · have told : ∀ report, report ∈ reports block ↔ report ∈ reports block' := by
      intro report
      rw [← reported_iff, ← reported_iff, same]
    rw [ofOutput_of_onlyBlock format only, ofOutput_of_onlyBlock format only']
    unfold verdictOf
    rw [foldl_addReport_congr told]
  · rw [ofOutput_of_onlyBlock format only]
    exact not_resolved_of_failed (reported_iff.mp failed) rfl

/-- A test that is reported with both statuses, and twice with one of them, counts as failed. -/
theorem report_tally_contradicted :
    bracketed.format = .structured ∧
      onlyBlock "<" ">" "<PASSED a\na: FAILED\n\n a: PASSED >" =
        .ok "PASSED a\na: FAILED\n\n a: PASSED".toList ∧
      Reported "PASSED a\na: FAILED\n\n a: PASSED".toList ("a", .failed) ∧
      ofOutput bracketed "<PASSED a\na: FAILED\n\n a: PASSED >" =
        ofOutput bracketed "log <FAILED a\r\n PASSED  a>" ∧
      (ofOutput bracketed "<PASSED a\na: FAILED\n\n a: PASSED >").resolved = false ∧
      ofOutput bracketed "<PASSED a> <PASSED a>" = ⟨false, none⟩ := by
  have only : onlyBlock "<" ">" "<PASSED a\na: FAILED\n\n a: PASSED >" =
      .ok "PASSED a\na: FAILED\n\n a: PASSED".toList := by decide +kernel
  have only' : onlyBlock "<" ">" "log <FAILED a\r\n PASSED  a>" =
      .ok "FAILED a\r\n PASSED  a".toList := by decide +kernel
  have failed : Reported "PASSED a\na: FAILED\n\n a: PASSED".toList ("a", .failed) := by decide
  have same : ∀ report, Reported "PASSED a\na: FAILED\n\n a: PASSED".toList report ↔
      Reported "FAILED a\r\n PASSED  a".toList report := by
    intro report
    have these : reports "PASSED a\na: FAILED\n\n a: PASSED".toList =
        [("a", .passed), ("a", .failed), ("a", .passed)] := by decide
    have those : reports "FAILED a\r\n PASSED  a".toList = [("a", .failed), ("a", .passed)] := by
      decide
    rw [reported_iff, reported_iff, these, those]
    grind
  obtain ⟨-, alike, unresolved, none⟩ := report_tally bracketed rfl
  exact ⟨rfl, only, failed, alike _ _ _ _ only only' same, unresolved _ _ _ only failed,
    none _ (by decide +kernel)⟩

end Tally

end AgentTrial.Verdict
