import AgentTrial.Proofs.Verdict.Block

/-!
# The grammar of a one-word verdict

Which outputs resolve a task when the verdict is one word between two markers, and which outputs are
warned about.

* **One word** — a block says that the task is resolved when it holds `PASSED` and blanks
  (`ofBlock_resolved_iff`).
* **Warnings** — an output is warned about when it holds no block, and when it holds another block
  after its first one (`no_block_iff`, `more_blocks_iff`).
* **The grammar** — `marker_grammar`.
-/

namespace AgentTrial.Verdict

open Text

variable {settings : VerdictSettings} {output : String}

/-- A block is resolved when it holds the word and blanks. -/
theorem ofBlock_resolved_iff (format : settings.format = .marker) {inner : List Char} :
    (ofBlock settings (trimChars inner)).resolved = true ↔
      ∃ left right, Blanks left ∧ Blanks right ∧ inner = left ++ "PASSED".toList ++ right := by
  have word : Trimmed "PASSED".toList := by decide
  rw [← trimChars_eq_iff word]
  unfold ofBlock
  rw [format]
  exact beq_iff_eq

/-- A one-word verdict has no tests. -/
theorem ofOutput_tests (format : settings.format = .marker) :
    (ofOutput settings output).tests = none := by
  unfold ofOutput read
  split
  · unfold ofBlock
    rw [format]
  · rfl

section Warnings

variable (marked : settings.startMarker ≠ "" ∨ settings.endMarker ≠ "")

include marked in
theorem not_both_empty :
    ¬(settings.startMarker.toList = [] ∧ settings.endMarker.toList = []) := by
  rintro ⟨noStart, noEnd⟩
  rcases marked with start | stop
  · exact start (String.toList_eq_nil_iff.mp noStart)
  · exact stop (String.toList_eq_nil_iff.mp noEnd)

include marked in
theorem no_block_iff :
    (read settings output).2 = some (.parse "no verdict block in output") ↔
      ¬HoldsBlock settings.startMarker.toList settings.endMarker.toList output.toList := by
  constructor
  · intro warned
    rcases read_cases settings output (not_both_empty marked) with
      ⟨none, -⟩ | ⟨_, _, _, -, -, read⟩ | ⟨_, _, _, -, -, read⟩
    · exact none
    · rw [read] at warned
      cases warned
    · rw [read] at warned
      exact absurd warned (by decide)
  · intro none
    rw [read_of_not_holds none]

include marked in
theorem more_blocks_iff :
    (read settings output).2 = some (.parse "multiple verdict blocks in output") ↔
      ∃ before inner after,
        FirstBlock settings.startMarker.toList settings.endMarker.toList output.toList before inner
          after ∧
        HoldsBlock settings.startMarker.toList settings.endMarker.toList after := by
  constructor
  · intro warned
    rcases read_cases settings output (not_both_empty marked) with
      ⟨-, read⟩ | ⟨_, _, _, -, -, read⟩ | ⟨before, inner, after, first, more, -⟩
    · rw [read] at warned
      exact absurd warned (by decide)
    · rw [read] at warned
      cases warned
    · exact ⟨before, inner, after, first, more⟩
  · rintro ⟨before, inner, after, first, more⟩
    rw [first.read_of_more (not_both_empty marked) more]

end Warnings

/-- What resolves a task: the word and blanks between the first start marker and the first end
marker after it, and no block behind. -/
theorem resolved_iff (format : settings.format = .marker)
    (marked : settings.startMarker ≠ "" ∨ settings.endMarker ≠ "") :
    (ofOutput settings output).resolved = true ↔
      ∃ before left right after,
        FirstBlock settings.startMarker.toList settings.endMarker.toList output.toList before
          (left ++ "PASSED".toList ++ right) after ∧
        Blanks left ∧ Blanks right ∧
        ¬HoldsBlock settings.startMarker.toList settings.endMarker.toList after := by
  unfold ofOutput
  constructor
  · intro resolved
    rcases read_cases settings output (not_both_empty marked) with
      ⟨-, read⟩ | ⟨before, inner, after, first, last, read⟩ | ⟨_, _, _, -, -, read⟩
    · rw [read] at resolved
      cases resolved
    · rw [read] at resolved
      obtain ⟨left, right, hl, hr, rfl⟩ := (ofBlock_resolved_iff format).mp resolved
      exact ⟨before, left, right, after, first, hl, hr, last⟩
    · rw [read] at resolved
      cases resolved
  · rintro ⟨before, left, right, after, first, hl, hr, last⟩
    rw [first.read_eq last]
    exact (ofBlock_resolved_iff format).mpr ⟨left, right, hl, hr, rfl⟩

/-- A task is resolved by the outputs that consist of a start marker that occurs nowhere further
left, the word `PASSED` with blanks around it, an end marker that occurs nowhere further left behind
the start marker, and a rest without a start marker and an end marker after it. There is no verdict
block in an output without a start marker and an end marker after it, and there are several when the
text after the first block, found leftmost and as short as can be, holds another one. -/
theorem marker_grammar (settings : VerdictSettings) (output : String)
    (format : settings.format = .marker)
    (marked : settings.startMarker ≠ "" ∨ settings.endMarker ≠ "") :
    ((ofOutput settings output).resolved = true ↔
      ∃ before left right after,
        output.toList =
          before ++ settings.startMarker.toList ++ (left ++ "PASSED".toList ++ right) ++
            settings.endMarker.toList ++ after ∧
        Blanks left ∧ Blanks right ∧
        Leftmost settings.startMarker.toList output.toList before ∧
        Leftmost settings.endMarker.toList
          ((left ++ "PASSED".toList ++ right) ++ settings.endMarker.toList ++ after)
          (left ++ "PASSED".toList ++ right) ∧
        ¬HoldsBlock settings.startMarker.toList settings.endMarker.toList after) ∧
    (ofOutput settings output).tests = none ∧
    ((read settings output).2 = some (.parse "no verdict block in output") ↔
      ¬HoldsBlock settings.startMarker.toList settings.endMarker.toList output.toList) ∧
    ((read settings output).2 = some (.parse "multiple verdict blocks in output") ↔
      ∃ before inner after,
        FirstBlock settings.startMarker.toList settings.endMarker.toList output.toList before inner
          after ∧
        HoldsBlock settings.startMarker.toList settings.endMarker.toList after) := by
  refine ⟨?_, ofOutput_tests format, no_block_iff marked, more_blocks_iff marked⟩
  rw [resolved_iff format marked]
  constructor
  · rintro ⟨before, left, right, after, first, hl, hr, last⟩
    obtain ⟨parts, starts, stops⟩ := firstBlock_iff.mp first
    exact ⟨before, left, right, after, parts, hl, hr, starts, stops, last⟩
  · rintro ⟨before, left, right, after, parts, hl, hr, starts, stops, last⟩
    have first := firstBlock_iff.mpr ⟨parts, starts, stops⟩
    exact ⟨before, left, right, after, first, hl, hr, last⟩

/-- One marker for both ends, with a line break inside, and it overlaps itself. -/
def starred : VerdictSettings := { startMarker := "*\n*", endMarker := "*\n*" }

/-- The first output resolves the task, though a copy of the marker that overlaps its end marker
stands behind. The second has no block, as its two markers overlap. The third has two. -/
theorem marker_grammar_starred :
    starred.format = .marker ∧ (starred.startMarker ≠ "" ∨ starred.endMarker ≠ "") ∧
    (∃ before left right after,
      "log *\n*\tPASSED \r\n*\n*\n*".toList =
        before ++ starred.startMarker.toList ++ (left ++ "PASSED".toList ++ right) ++
          starred.endMarker.toList ++ after ∧
      Blanks left ∧ Blanks right ∧
      Leftmost starred.startMarker.toList "log *\n*\tPASSED \r\n*\n*\n*".toList before ∧
      Leftmost starred.endMarker.toList
        ((left ++ "PASSED".toList ++ right) ++ starred.endMarker.toList ++ after)
        (left ++ "PASSED".toList ++ right) ∧
      ¬HoldsBlock starred.startMarker.toList starred.endMarker.toList after) ∧
    ¬HoldsBlock starred.startMarker.toList starred.endMarker.toList "*\n*\n* PASSED".toList ∧
    ∃ before inner after,
      FirstBlock starred.startMarker.toList starred.endMarker.toList
        "*\n*PASSED*\n* *\n*PASSED*\n*".toList before inner after ∧
      HoldsBlock starred.startMarker.toList starred.endMarker.toList after := by
  have format : starred.format = .marker := rfl
  have marked : starred.startMarker ≠ "" ∨ starred.endMarker ≠ "" := .inl (by decide)
  have one := marker_grammar starred "log *\n*\tPASSED \r\n*\n*\n*" format marked
  have none := marker_grammar starred "*\n*\n* PASSED" format marked
  have two := marker_grammar starred "*\n*PASSED*\n* *\n*PASSED*\n*" format marked
  exact ⟨format, marked, one.1.mp (by decide), none.2.2.1.mp (by decide), two.2.2.2.mp (by decide)⟩

end AgentTrial.Verdict
