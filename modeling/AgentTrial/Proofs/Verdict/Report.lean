import AgentTrial.Proofs.Dict
import AgentTrial.Proofs.Verdict.Block
import AgentTrial.Proofs.Verdict.Line

/-!
# Reports with one line per test

What a report block comes to, line by line.

* **Lines** — the reports of a block are those of its lines (`reports_append_newline`), and blanks
  around a block do not matter (`reports_trimChars`).
* **Merging** — a test has failed when one of its reports says so, and has passed when all do
  (`get?_foldl_addReport`).
* **Round trip** — a report that is written for a dictionary is read as that dictionary
  (`report_round_trip`).
-/

namespace AgentTrial.Verdict

open Text

/-! ## Lines -/

section Lines

variable {block front rest line : List Char} {c : Char}

/-- How a line ends, and whether the last one does, makes no difference to what is read. -/
theorem reports_eq (block : List Char) :
    reports block = (block.splitOn '\n').filterMap reportOf? := by
  have same : ∀ line, reportOf? (dropReturn line) = reportOf? line := fun line =>
    reportOf?_of_trimChars_eq (trimChars_dropReturn line)
  unfold reports filledLines
  rw [List.filterMap_filter, ← filterMap_lines (reportOf?_eq_none_of_blanks Blanks.nil) same]
  refine List.filterMap_congr fun line _ => ?_
  split
  · rfl
  · rename_i blank
    exact (reportOf?_eq_none_of_blanks (by simpa [Blanks] using blank)).symm

theorem reports_append_newline :
    reports (front ++ '\n' :: rest) = reports front ++ reports rest := by
  simp only [reports_eq, List.splitOn_append_cons_self, List.filterMap_append]

theorem reports_of_unbroken (unbroken : '\n' ∉ line) : reports line = (reportOf? line).toList := by
  rw [reports_eq, List.splitOn_eq_singleton unbroken]
  cases read : reportOf? line <;> simp [read]

theorem reports_nil : reports [] = [] := rfl

/-- Only the text between the blanks around one line counts. -/
theorem reports_of_trimChars_eq {line' : List Char} (unbroken : '\n' ∉ line)
    (unbroken' : '\n' ∉ line') (same : trimChars line = trimChars line') :
    reports line = reports line' := by
  rw [reports_of_unbroken unbroken, reports_of_unbroken unbroken', reportOf?_of_trimChars_eq same]

theorem reports_cons_blank (blank : isBlank c = true) : reports (c :: block) = reports block := by
  by_cases feed : c = '\n'
  · subst feed
    show reports ([] ++ '\n' :: block) = reports block
    rw [reports_append_newline, reports_nil, List.nil_append]
  · have single : Blanks [c] := Blanks.nil.cons blank
    have unbroken_cons : ∀ line, '\n' ∉ line → '\n' ∉ c :: line := by
      intro line unbroken
      simpa [Ne.symm feed] using unbroken
    by_cases broken : '\n' ∈ block
    · obtain ⟨line, rest, rfl, unbroken⟩ := List.eq_append_cons_of_mem broken
      rw [← List.cons_append, reports_append_newline, reports_append_newline,
        reports_of_trimChars_eq (unbroken_cons line unbroken) unbroken
          (trimChars_append_left single)]
    · exact reports_of_trimChars_eq (unbroken_cons block broken) broken
        (trimChars_append_left single)

/-- Blanks before a block do not matter. -/
theorem reports_blanks_append (blanks : Blanks front) :
    reports (front ++ block) = reports block := by
  induction front with
  | nil => rfl
  | cons c front ih =>
      rw [List.cons_append, reports_cons_blank (blanks c List.mem_cons_self)]
      exact ih fun d mem => blanks d (List.mem_cons_of_mem _ mem)

/-- A text is one line or ends in one behind a line feed. -/
theorem exists_last_line (block : List Char) :
    '\n' ∉ block ∨ ∃ front line, '\n' ∉ line ∧ block = front ++ '\n' :: line := by
  by_cases broken : '\n' ∈ block
  · obtain ⟨line, front, parts, unbroken⟩ :=
      List.eq_append_cons_of_mem (List.mem_reverse.mpr broken)
    refine .inr ⟨front.reverse, line.reverse, by simpa using unbroken, ?_⟩
    simpa using congrArg List.reverse parts
  · exact .inl broken

theorem reports_concat_blank (blank : isBlank c = true) :
    reports (block ++ [c]) = reports block := by
  by_cases feed : c = '\n'
  · subst feed
    rw [reports_append_newline, reports_nil, List.append_nil]
  · have single : Blanks [c] := Blanks.nil.cons blank
    have unbroken_concat : ∀ line, '\n' ∉ line → '\n' ∉ line ++ [c] := by
      intro line unbroken
      simpa [Ne.symm feed] using unbroken
    rcases exists_last_line block with unbroken | ⟨front, line, unbroken, rfl⟩
    · exact reports_of_trimChars_eq (unbroken_concat block unbroken) unbroken
        (trimChars_append_right single)
    · rw [List.append_assoc, List.cons_append, reports_append_newline, reports_append_newline,
        reports_of_trimChars_eq (unbroken_concat line unbroken) unbroken
          (trimChars_append_right single)]

/-- Blanks after a block do not matter. -/
theorem reports_append_blanks (blanks : Blanks rest) : reports (block ++ rest) = reports block := by
  induction rest generalizing block with
  | nil => rw [List.append_nil]
  | cons c rest ih =>
      rw [List.append_cons, ih fun d mem => blanks d (List.mem_cons_of_mem _ mem),
        reports_concat_blank (blanks c List.mem_cons_self)]

theorem reports_trimChars (block : List Char) : reports (trimChars block) = reports block := by
  obtain ⟨left, right, hl, hr, parts⟩ := exists_blanks_around block
  calc reports (trimChars block)
      = reports (left ++ trimChars block) := (reports_blanks_append hl).symm
    _ = reports (left ++ trimChars block ++ right) := (reports_append_blanks hr).symm
    _ = reports block := by rw [← parts]

/-- The reports of lines between line feeds. -/
theorem reports_intercalate {lines : List (List Char)} (unbroken : ∀ line ∈ lines, '\n' ∉ line) :
    reports (['\n'].intercalate lines) = lines.filterMap reportOf? := by
  by_cases none : lines = []
  · subst none
    rfl
  · rw [reports_eq, List.splitOn_intercalate '\n' unbroken none]

end Lines

/-! ## Merging -/

section Merging

variable {tests : Dict TestStatus} {report : String × TestStatus}
  {told : List (String × TestStatus)} {name : String} {status : TestStatus}

/-- What reports say of a name together. -/
def merged (told : List (String × TestStatus)) (name : String) : Option TestStatus :=
  if (name, .failed) ∈ told then some .failed
  else if (name, .passed) ∈ told then some .passed
  else none

theorem get?_addReport :
    (addReport tests report).get? name =
      if name = report.1 then
        if tests.get? name = some .failed then some .failed else some report.2
      else tests.get? name := by
  unfold addReport
  rw [Dict.get?_alter]
  by_cases same : name = report.1
  · subst same
    rw [if_pos rfl, if_pos rfl]
    rcases tests.get? report.1 with _ | _ | _ <;> rfl
  · rw [if_neg same, if_neg same]

theorem get?_foldl_addReport (told : List (String × TestStatus)) (name : String) :
    (told.foldl addReport .empty).get? name = merged told name := by
  induction told using List.reverseRecOn with
  | nil => rfl
  | append_singleton told report ih =>
      obtain ⟨other, status⟩ := report
      rw [List.foldl_concat, get?_addReport, ih]
      unfold merged
      by_cases same : name = other
      · subst same
        cases status <;> simp
      · simp [same]

theorem mem_of_merged (h : merged told name = some status) : (name, status) ∈ told := by
  unfold merged at h
  split at h
  · cases h
    assumption
  · split at h
    · cases h
      assumption
    · cases h

theorem exists_merged_of_mem (mem : (name, status) ∈ told) :
    ∃ other, merged told name = some other := by
  unfold merged
  cases status with
  | failed => exact ⟨.failed, if_pos mem⟩
  | passed =>
      by_cases failed : (name, TestStatus.failed) ∈ told
      · exact ⟨.failed, if_pos failed⟩
      · exact ⟨.passed, by rw [if_neg failed, if_pos mem]⟩

theorem merged_of_failed (mem : (name, .failed) ∈ told) : merged told name = some .failed :=
  if_pos mem

/-- The verdict has a status for just the names that are told. -/
theorem told_iff :
    (told.foldl addReport .empty).get? name ≠ none ↔ ∃ r ∈ told, r.1 = name := by
  rw [get?_foldl_addReport, Option.ne_none_iff_exists']
  constructor
  · rintro ⟨status, found⟩
    exact ⟨(name, status), mem_of_merged found, rfl⟩
  · rintro ⟨⟨name, status⟩, mem, rfl⟩
    exact exists_merged_of_mem mem

/-- Where no name is reported with both statuses nothing has to be merged. -/
theorem foldl_addReport_of_perm (order : told.Perm tests.entries) :
    told.foldl addReport .empty = tests := by
  refine Dict.ext_get? fun name => ?_
  rw [get?_foldl_addReport]
  rcases found : merged told name with _ | status
  · symm
    rw [Dict.get?_eq_none_iff]
    rintro ⟨other, status⟩ mem rfl
    obtain ⟨status', found'⟩ := exists_merged_of_mem (order.mem_iff.mpr mem)
    rw [found] at found'
    cases found'
  · have mem := order.mem_iff.mp (mem_of_merged found)
    exact (Dict.get?_eq_some_iff.mpr mem).symm

theorem mem_entries_iff :
    (name, status) ∈ (told.foldl addReport .empty).entries ↔ merged told name = some status := by
  rw [← Dict.get?_eq_some_iff, get?_foldl_addReport]

/-- There are tests where there are reports. -/
theorem entries_eq_nil_iff : (told.foldl addReport .empty).entries = [] ↔ told = [] := by
  constructor
  · intro empty
    refine List.eq_nil_iff_forall_not_mem.mpr fun ⟨name, status⟩ mem => ?_
    obtain ⟨other, found⟩ := exists_merged_of_mem mem
    have bound := mem_entries_iff.mpr found
    rw [empty] at bound
    cases bound
  · rintro rfl
    rfl

/-- All tests have passed when no report says otherwise. -/
theorem all_passed_iff :
    (∀ p ∈ (told.foldl addReport .empty).entries, p.2 = .passed) ↔ ∀ r ∈ told, r.2 = .passed := by
  constructor
  · rintro passed ⟨name, status⟩ mem
    cases status with
    | passed => rfl
    | failed => exact passed _ (mem_entries_iff.mpr (merged_of_failed mem))
  · rintro passed ⟨name, status⟩ mem
    exact passed _ (mem_of_merged (mem_entries_iff.mp mem))

end Merging

/-! ## Resolving -/

section Resolving

variable {policy : EmptyVerdict} {tests : Dict TestStatus}

/-- A report resolves a task when every test has passed; one without tests does as the policy says. -/
theorem isResolved_iff :
    isResolved policy tests = true ↔
      if tests.entries = [] then policy = .resolved else ∀ p ∈ tests.entries, p.2 = .passed := by
  unfold isResolved
  have empty : tests.isEmpty = true ↔ tests.entries = [] := List.isEmpty_iff
  by_cases none : tests.entries = []
  · rw [if_pos none, if_pos (empty.mpr none)]
    exact beq_iff_eq
  · rw [if_neg none, if_neg (fun e => none (empty.mp e))]
    simp [Dict.values]

/-- The verdict of reports. -/
def verdictOf (policy : EmptyVerdict) (told : List (String × TestStatus)) : Verdict :=
  ⟨isResolved policy (told.foldl addReport .empty), some (told.foldl addReport .empty)⟩

/-- What reports resolve. -/
theorem verdictOf_resolved_iff {told : List (String × TestStatus)} :
    (verdictOf policy told).resolved = true ↔
      if told = [] then policy = .resolved else ∀ r ∈ told, r.2 = .passed := by
  unfold verdictOf
  rw [isResolved_iff]
  simp only [entries_eq_nil_iff, all_passed_iff]

/-- A failure that is told leaves the task unresolved. -/
theorem not_resolved_of_failed {told : List (String × TestStatus)} {r : String × TestStatus}
    (mem : r ∈ told) (failed : r.2 = .failed) : (verdictOf policy told).resolved = false := by
  refine Bool.eq_false_iff.mpr fun resolved => ?_
  have some : told ≠ [] := List.ne_nil_of_mem mem
  have passed := verdictOf_resolved_iff.mp resolved
  rw [if_neg some] at passed
  rw [passed r mem] at failed
  cases failed

end Resolving

/-! ## Round trip -/

section RoundTrip

/-- Lines that tell reports, in this order, with silent lines among them. -/
inductive Printed : List (List Char) → List (String × TestStatus) → Prop where
  | nil : Printed [] []
  | report {line : List Char} {name : String} {status : TestStatus} {lines : List (List Char)}
      {told : List (String × TestStatus)} (tells : Tells name status line)
      (rest : Printed lines told) : Printed (line :: lines) ((name, status) :: told)
  | silent {line : List Char} {lines : List (List Char)} {told : List (String × TestStatus)}
      (silent : Silent line) (rest : Printed lines told) : Printed (line :: lines) told

variable {lines : List (List Char)} {told : List (String × TestStatus)}

/-- What is printed is read. -/
theorem Printed.filterMap_eq (h : Printed lines told) (named : ∀ r ∈ told, IsName r.1) :
    lines.filterMap reportOf? = told := by
  induction h with
  | nil => rfl
  | report tells rest ih =>
      have here := tells.reportOf?_eq (named _ List.mem_cons_self)
      have later := ih fun r mem => named r (List.mem_cons_of_mem _ mem)
      rw [List.filterMap_cons, here, later]
  | silent silent rest ih =>
      rw [List.filterMap_cons, reportOf?_eq_none_iff.mpr silent]
      exact ih named

/-- The verdict of a report in the only block. -/
theorem FirstBlock.ofOutput_eq {settings : VerdictSettings} {output : String}
    {before inner after : List Char} (format : settings.format = .structured)
    (h : FirstBlock settings.startMarker.toList settings.endMarker.toList output.toList before inner
      after)
    (last : ¬HoldsBlock settings.startMarker.toList settings.endMarker.toList after) :
    ofOutput settings output = verdictOf settings.emptyVerdict (reports inner) := by
  unfold ofOutput
  rw [h.read_eq last]
  unfold ofBlock testsOf
  rw [format, reports_trimChars]
  rfl

/-- **Round trip.** A report that tells the statuses of a dictionary, its names in any order and
each in either shape, with silent lines among them and blanks anywhere around, is read from the
only block of an output as that dictionary. -/
theorem report_round_trip (settings : VerdictSettings) (output : String) (tests : Dict TestStatus)
    (lines : List (List Char)) (told : List (String × TestStatus)) (before after : List Char)
    (format : settings.format = .structured) (names : ∀ p ∈ tests.entries, IsName p.1)
    (order : told.Perm tests.entries) (printed : Printed lines told)
    (unbroken : ∀ line ∈ lines, '\n' ∉ line)
    (block : FirstBlock settings.startMarker.toList settings.endMarker.toList output.toList before
      (['\n'].intercalate lines) after)
    (only : ¬HoldsBlock settings.startMarker.toList settings.endMarker.toList after) :
    (ofOutput settings output).tests = some tests ∧
    ((ofOutput settings output).resolved = true ↔
      if tests.entries = [] then settings.emptyVerdict = .resolved
      else ∀ p ∈ tests.entries, p.2 = .passed) := by
  have read : reports (['\n'].intercalate lines) = told := by
    rw [reports_intercalate unbroken]
    exact printed.filterMap_eq fun r mem => names r (order.mem_iff.mp mem)
  have merge : told.foldl addReport .empty = tests := foldl_addReport_of_perm order
  rw [block.ofOutput_eq format only, read]
  unfold verdictOf
  rw [merge]
  exact ⟨rfl, isResolved_iff⟩

/-- Settings for reports between angle brackets. -/
def bracketed : VerdictSettings := { format := .structured, startMarker := "<", endMarker := ">" }

/-- A status word as a name, a name that looks like a report, and one with colons. -/
def oddTests : Dict TestStatus :=
  .ofList [("t::one", .passed), ("a b: PASSED", .failed), ("FAILED", .passed)]

/-- The same tests in another order and in both shapes, with other lines among them. -/
def oddLines : List (List Char) :=
  ["\r".toList, "  PASSED \t t::one\r".toList, "3 tests: done".toList, "FAILED a b: PASSED".toList,
    "FAILED:PASSED\r".toList, []]

def oddReports : List (String × TestStatus) :=
  [("t::one", .passed), ("a b: PASSED", .failed), ("FAILED", .passed)]

/-- These lines between the brackets, and a bracket that opens nothing behind. -/
def oddOutput : String :=
  "log <\r\n  PASSED \t t::one\r\n3 tests: done\nFAILED a b: PASSED\nFAILED:PASSED\r\n> < end"

theorem printed_odd : Printed oddLines oddReports := by
  have blank : Silent "\r".toList := reportOf?_eq_none_iff.mp (by decide)
  have one : Tells "t::one" .passed "  PASSED \t t::one\r".toList :=
    (reportOf?_eq_some_iff.mp (by decide)).2
  have other : Silent "3 tests: done".toList := reportOf?_eq_none_iff.mp (by decide)
  have report : Tells "a b: PASSED" .failed "FAILED a b: PASSED".toList :=
    (reportOf?_eq_some_iff.mp (by decide)).2
  have word : Tells "FAILED" .passed "FAILED:PASSED\r".toList :=
    (reportOf?_eq_some_iff.mp (by decide)).2
  have empty : Silent [] := reportOf?_eq_none_iff.mp (by decide)
  exact .silent blank (.report one (.silent other (.report report (.report word
    (.silent empty .nil)))))

theorem report_round_trip_odd :
    bracketed.format = .structured ∧ (∀ p ∈ oddTests.entries, IsName p.1) ∧
    oddReports.Perm oddTests.entries ∧ Printed oddLines oddReports ∧
    (∀ line ∈ oddLines, '\n' ∉ line) ∧
    (ofOutput bracketed oddOutput).tests = some oddTests ∧
    (ofOutput bracketed oddOutput).resolved = false := by
  have format : bracketed.format = .structured := rfl
  have names : ∀ p ∈ oddTests.entries, IsName p.1 := by decide
  have order : oddReports.Perm oddTests.entries := by decide
  have unbroken : ∀ line ∈ oddLines, '\n' ∉ line := by decide
  have found : firstBlock "<".toList ">".toList oddOutput.toList =
      some (['\n'].intercalate oddLines, " < end".toList) := by decide +kernel
  obtain ⟨before, block⟩ := firstBlock_eq_some_iff.mp found
  have only : ¬HoldsBlock "<".toList ">".toList " < end".toList :=
    firstBlock_eq_none_iff.mp (by decide)
  have trip := report_round_trip bracketed _ oddTests oddLines oddReports before " < end".toList
    format names order printed_odd unbroken block only
  have failing : ¬if oddTests.entries = [] then bracketed.emptyVerdict = .resolved
      else ∀ p ∈ oddTests.entries, p.2 = .passed := by decide
  refine ⟨format, names, order, printed_odd, unbroken, trip.1, ?_⟩
  refine Bool.eq_false_iff.mpr fun resolved => ?_
  exact failing (trip.2.mp resolved)

end RoundTrip

end AgentTrial.Verdict
