import AgentTrial.Proofs.Text.Blank
import AgentTrial.Verdict.Report
import Mathlib.Data.List.Infix

/-!
# Where blocks stand

Blocks of a text, told without the search for them.

* **Cutting** — `cut` finds the leftmost occurrence of a marker and fails only where there is none
  (`cut_eq_some_iff`, `cut_eq_none_iff`).
* **The first block** — `FirstBlock` is what a leftmost search for a shortest block finds: no block
  begins earlier, and none that begins there ends earlier. It is the same to say that the start
  marker does not occur earlier and the end marker not in between (`firstBlock_iff`), and it is
  what `firstBlock` finds (`firstBlock_eq_some_iff`).
* **The only block** — what `onlyBlock` answers in each of the three cases: no block, a first block
  with none after it, a first block with another after it.
-/

namespace AgentTrial.Verdict

/-! ## Cutting -/

section Cutting

variable {marker cs before after : List Char}

/-- The marker does not occur further to the left than after `before`. -/
def Leftmost (marker cs before : List Char) : Prop :=
  ∀ p q, cs = p ++ marker ++ q → before.length ≤ p.length

/-- One character further, the leftmost occurrence is the same if there is none right here. -/
theorem leftmost_cons_iff {c : Char} (here : ¬marker <+: c :: cs) :
    Leftmost marker (c :: cs) (c :: before) ↔ Leftmost marker cs before := by
  constructor
  · intro leftmost p q parts
    have shifted := leftmost (c :: p) q (by rw [parts]; rfl)
    simpa using shifted
  · intro leftmost p q parts
    cases p with
    | nil => exact absurd ⟨q, parts.symm⟩ here
    | cons d p =>
        have tail := List.tail_eq_of_cons_eq parts
        have shifted := leftmost p q tail
        simpa using shifted

/-- The search from a place on: what has been passed stands in front of what is found. -/
theorem cutFrom_eq (passed : List Char) :
    cutFrom marker passed cs =
      (cut marker cs).map fun found => (passed.reverse ++ found.1, found.2) := by
  induction cs generalizing passed with
  | nil =>
      unfold cut cutFrom
      split <;> simp
  | cons c cs ih =>
      unfold cut cutFrom
      split
      · simp
      · rw [ih, ih]
        cases cut marker cs <;> simp

theorem cut_nil : cut marker [] = if marker = [] then some ([], []) else none := rfl

theorem cut_cons {c : Char} :
    cut marker (c :: cs) =
      if marker <+: c :: cs then some ([], (c :: cs).drop marker.length)
      else (cut marker cs).map fun found => (c :: found.1, found.2) := by
  show cutFrom marker [] (c :: cs) = _
  rw [cutFrom, cutFrom_eq]
  simp [List.isPrefixOf_iff_prefix]

/-- A marker is not found where it does not occur. -/
theorem cut_eq_none_iff : cut marker cs = none ↔ ¬marker <:+: cs := by
  induction cs with
  | nil => simp [cut_nil]
  | cons c cs ih =>
      rw [cut_cons, List.infix_cons_iff]
      split
      · rename_i here
        simp [here]
      · rename_i elsewhere
        simp [elsewhere, ih]

/-- A marker is found where it occurs leftmost. -/
theorem cut_eq_some_iff :
    cut marker cs = some (before, after) ↔
      cs = before ++ marker ++ after ∧ Leftmost marker cs before := by
  induction cs generalizing before with
  | nil =>
      rw [cut_nil]
      constructor
      · intro found
        split at found
        · rename_i empty
          obtain ⟨rfl, rfl⟩ := Prod.mk.inj (Option.some.inj found)
          exact ⟨by simp [empty], fun p q parts => Nat.zero_le _⟩
        · cases found
      · rintro ⟨parts, -⟩
        have empty := List.append_eq_nil_iff.mp parts.symm
        have both := List.append_eq_nil_iff.mp empty.1
        simp [empty, both]
  | cons c cs ih =>
      rw [cut_cons]
      by_cases here : marker <+: c :: cs
      · obtain ⟨rest, parts⟩ := here
        rw [if_pos ⟨rest, parts⟩, ← parts, List.drop_left]
        constructor
        · intro found
          obtain ⟨rfl, rfl⟩ := Prod.mk.inj (Option.some.inj found)
          exact ⟨rfl, fun p q parts => Nat.zero_le _⟩
        · rintro ⟨same, leftmost⟩
          have none : before.length ≤ 0 := leftmost [] rest rfl
          have first : before = [] := List.length_eq_zero_iff.mp (Nat.le_zero.mp none)
          subst first
          rw [List.nil_append] at same
          rw [List.append_cancel_left same]
      · rw [if_neg here]
        constructor
        · intro found
          obtain ⟨⟨head, tail⟩, later, same⟩ := Option.map_eq_some_iff.mp found
          obtain ⟨rfl, rfl⟩ := Prod.mk.inj same
          obtain ⟨parts, leftmost⟩ := ih.mp later
          exact ⟨by rw [parts]; rfl, (leftmost_cons_iff here).mpr leftmost⟩
        · rintro ⟨parts, leftmost⟩
          cases before with
          | nil => exact absurd ⟨after, parts.symm⟩ here
          | cons d before =>
              obtain ⟨rfl, rest⟩ := List.cons.inj parts
              have later := ih.mpr ⟨rest, (leftmost_cons_iff here).mp leftmost⟩
              rw [later]
              rfl

end Cutting

/-! ## The first block -/

section First

variable {start stop cs before inner after : List Char}

/-- A text with an occurrence of `start` and, after it, one of `stop`. -/
def HoldsBlock (start stop cs : List Char) : Prop :=
  ∃ before inner after, cs = before ++ start ++ inner ++ stop ++ after

/-- The block that a leftmost search for a shortest block finds. -/
structure FirstBlock (start stop cs before inner after : List Char) : Prop where
  parts : cs = before ++ start ++ inner ++ stop ++ after
  /-- No block begins earlier. -/
  earliest : ∀ p x q, cs = p ++ start ++ x ++ stop ++ q → before.length ≤ p.length
  /-- No block that begins here ends earlier. -/
  shortest : ∀ x q, cs = before ++ start ++ x ++ stop ++ q → inner.length ≤ x.length

/-- Of two beginnings of a text the shorter is the beginning of the longer. -/
theorem exists_append_of_length_le {a b c d : List Char} (same : a ++ b = c ++ d)
    (shorter : a.length ≤ c.length) : ∃ x, c = a ++ x ∧ b = x ++ d := by
  rcases List.append_eq_append_iff.mp same with ⟨x, rfl, rfl⟩ | ⟨x, rfl, rfl⟩
  · exact ⟨x, rfl, rfl⟩
  · have none : x = [] := by
      rw [List.length_append] at shorter
      exact List.length_eq_zero_iff.mp (by omega)
    subst none
    exact ⟨[], by simp, by simp⟩

/-- In a block that is found first the markers themselves occur leftmost: the start marker in the
text and the end marker behind it. -/
theorem firstBlock_iff :
    FirstBlock start stop cs before inner after ↔
      cs = before ++ start ++ inner ++ stop ++ after ∧ Leftmost start cs before ∧
        Leftmost stop (inner ++ stop ++ after) inner := by
  constructor
  · intro first
    refine ⟨first.parts, fun p q parts => ?_, fun x q parts => ?_⟩
    · -- a start marker further left begins a block too: the end marker of this one is behind it
      by_contra further
      have same : p ++ start ++ q = (before ++ start ++ inner) ++ (stop ++ after) := by
        rw [← parts, first.parts]
        simp
      obtain ⟨x, -, rest⟩ := exists_append_of_length_le same (by
        simp only [List.length_append]
        omega)
      exact further (first.earliest p x after (by rw [parts, rest]; simp))
    · refine first.shortest x q ?_
      rw [first.parts]
      simpa using parts
  · rintro ⟨parts, starts, stops⟩
    refine ⟨parts, fun p x q other => ?_, fun x q other => ?_⟩
    · exact starts p (x ++ stop ++ q) (by rw [other]; simp)
    · refine stops x q ?_
      rw [parts] at other
      simpa using other

/-- The search finds the first block. -/
theorem firstBlock_eq_some_iff :
    firstBlock start stop cs = some (inner, after) ↔
      ∃ before, FirstBlock start stop cs before inner after := by
  simp only [firstBlock_iff]
  unfold firstBlock
  constructor
  · intro found
    split at found
    · rename_i before rest starts
      obtain ⟨parts, leftmost⟩ := cut_eq_some_iff.mp starts
      obtain ⟨rfl, stops⟩ := cut_eq_some_iff.mp found
      exact ⟨before, by rw [parts]; simp, leftmost, stops⟩
    · cases found
  · rintro ⟨before, parts, starts, stops⟩
    have found : cut start cs = some (before, inner ++ stop ++ after) :=
      cut_eq_some_iff.mpr ⟨by rw [parts]; simp, starts⟩
    rw [found]
    exact cut_eq_some_iff.mpr ⟨rfl, stops⟩

/-- The search fails only where there is no block. -/
theorem firstBlock_eq_none_iff :
    firstBlock start stop cs = none ↔ ¬HoldsBlock start stop cs := by
  unfold firstBlock
  constructor
  · rintro found ⟨p, x, q, block⟩
    split at found
    · rename_i before rest starts
      obtain ⟨parts, leftmost⟩ := cut_eq_some_iff.mp starts
      have bound := leftmost p (x ++ stop ++ q) (by rw [block]; simp)
      have same : before ++ start ++ rest = (p ++ start ++ x) ++ (stop ++ q) := by
        rw [← parts, block]
        simp
      obtain ⟨y, -, behind⟩ := exists_append_of_length_le same (by
        simp only [List.length_append]
        omega)
      exact cut_eq_none_iff.mp found ⟨y, q, by rw [behind]; simp⟩
    · rename_i missing
      exact cut_eq_none_iff.mp missing ⟨p, x ++ stop ++ q, by rw [block]; simp⟩
  · intro none
    split
    · rename_i before rest starts
      obtain ⟨parts, -⟩ := cut_eq_some_iff.mp starts
      refine cut_eq_none_iff.mpr fun ⟨x, q, stops⟩ => none ⟨before, x, q, ?_⟩
      rw [parts, ← stops]
      simp
    · rfl

/-- A text with a block has a first one. -/
theorem HoldsBlock.exists_first (holds : HoldsBlock start stop cs) :
    ∃ before inner after, FirstBlock start stop cs before inner after := by
  rcases found : firstBlock start stop cs with _ | ⟨inner, after⟩
  · exact absurd holds (firstBlock_eq_none_iff.mp found)
  · obtain ⟨before, first⟩ := firstBlock_eq_some_iff.mp found
    exact ⟨before, inner, after, first⟩

/-- A text has one first block. -/
theorem FirstBlock.unique {before' inner' after' : List Char}
    (h : FirstBlock start stop cs before inner after)
    (h' : FirstBlock start stop cs before' inner' after') :
    before = before' ∧ inner = inner' ∧ after = after' := by
  have found := firstBlock_eq_some_iff.mpr ⟨before, h⟩
  have found' := firstBlock_eq_some_iff.mpr ⟨before', h'⟩
  have le := h.earliest before' inner' after' h'.parts
  have ge := h'.earliest before inner after h.parts
  have taken : before = cs.take before.length := by
    rw [h.parts]
    simp
  have taken' : before' = cs.take before'.length := by
    rw [h'.parts]
    simp
  have length : before.length = before'.length := by omega
  refine ⟨?_, Prod.mk.inj (Option.some.inj (found.symm.trans found'))⟩
  rw [taken, taken', length]

end First

/-! ## The only block -/

section Only

variable {start stop cs before inner after : List Char}

/-- Where not both markers are empty, the search for more goes on in a shorter text. -/
theorem FirstBlock.length_lt (h : FirstBlock start stop cs before inner after)
    (marked : ¬(start = [] ∧ stop = [])) : after.length < cs.length := by
  have lengths := congrArg List.length h.parts
  simp only [List.length_append] at lengths
  have some : 0 < start.length + stop.length := by
    by_contra none
    exact marked ⟨List.length_eq_zero_iff.mp (by omega), List.length_eq_zero_iff.mp (by omega)⟩
  omega

/-- More fuel than characters is enough. -/
theorem blocksWithin_enough (marked : ¬(start = [] ∧ stop = [])) {fuel fuel' : Nat}
    (enough : cs.length < fuel) (enough' : cs.length < fuel') :
    blocksWithin start stop fuel cs = blocksWithin start stop fuel' cs := by
  induction fuel generalizing cs fuel' with
  | zero => omega
  | succ fuel ih =>
      obtain ⟨fuel', rfl⟩ : ∃ k, fuel' = k + 1 := ⟨fuel' - 1, by omega⟩
      rw [blocksWithin, blocksWithin]
      rcases found : firstBlock start stop cs with _ | ⟨inner, after⟩
      · rfl
      · obtain ⟨before, first⟩ := firstBlock_eq_some_iff.mp found
        have shorter := first.length_lt marked
        simp only [if_neg marked]
        have same : blocksWithin start stop fuel after = blocksWithin start stop fuel' after :=
          ih (by omega) (by omega)
        rw [same]

theorem blocks_eq_nil_iff : blocks start stop cs = [] ↔ ¬HoldsBlock start stop cs := by
  rw [← firstBlock_eq_none_iff]
  unfold blocks
  rw [blocksWithin]
  rcases firstBlock start stop cs with _ | ⟨inner, _ | ⟨c, rest⟩⟩
  · simp
  · simp only [reduceCtorEq, iff_false]
    split <;> simp
  · simp only [reduceCtorEq, iff_false]
    split <;> simp

/-- The blocks of a text are its first block and the blocks of the text after it. -/
theorem FirstBlock.blocks_eq (h : FirstBlock start stop cs before inner after)
    (marked : ¬(start = [] ∧ stop = [])) :
    blocks start stop cs = inner :: blocks start stop after := by
  have shorter := h.length_lt marked
  unfold blocks
  rw [blocksWithin, firstBlock_eq_some_iff.mpr ⟨before, h⟩]
  simp only [if_neg marked]
  rw [blocksWithin_enough marked shorter (Nat.lt_succ_self _)]

end Only

section Output

variable {start stop output : String} {before inner after : List Char}

theorem onlyBlock_of_not_holds (none : ¬HoldsBlock start.toList stop.toList output.toList) :
    onlyBlock start stop output = .error (.parse "no verdict block in output") := by
  unfold onlyBlock
  rw [blocks_eq_nil_iff.mpr none]

/-- The only block is the first one when there is none after it. -/
theorem FirstBlock.onlyBlock_eq
    (h : FirstBlock start.toList stop.toList output.toList before inner after)
    (last : ¬HoldsBlock start.toList stop.toList after) :
    onlyBlock start stop output = .ok (Text.trimChars inner) := by
  have marked : ¬(start.toList = [] ∧ stop.toList = []) := by
    rintro ⟨noStart, noStop⟩
    exact last ⟨[], [], after, by simp [noStart, noStop]⟩
  unfold onlyBlock
  rw [h.blocks_eq marked, blocks_eq_nil_iff.mpr last]

/-- A block after the first one makes two of them. -/
theorem FirstBlock.onlyBlock_of_more
    (h : FirstBlock start.toList stop.toList output.toList before inner after)
    (marked : ¬(start.toList = [] ∧ stop.toList = []))
    (more : HoldsBlock start.toList stop.toList after) :
    onlyBlock start stop output = .error (.parse "multiple verdict blocks in output") := by
  have some : blocks start.toList stop.toList after ≠ [] := fun none =>
    blocks_eq_nil_iff.mp none more
  unfold onlyBlock
  rw [h.blocks_eq marked]
  obtain ⟨next, rest, shape⟩ := List.exists_cons_of_ne_nil some
  rw [shape]

/-! ## Verdicts -/

variable {settings : VerdictSettings}

theorem read_of_not_holds
    (none : ¬HoldsBlock settings.startMarker.toList settings.endMarker.toList output.toList) :
    read settings output = (unresolved, some (.parse "no verdict block in output")) := by
  unfold read
  rw [onlyBlock_of_not_holds none]

/-- The verdict is that of the only block, without the blanks around it. -/
theorem FirstBlock.read_eq
    (h : FirstBlock settings.startMarker.toList settings.endMarker.toList output.toList before inner
      after)
    (last : ¬HoldsBlock settings.startMarker.toList settings.endMarker.toList after) :
    read settings output = (ofBlock settings (Text.trimChars inner), Option.none) := by
  unfold read
  rw [h.onlyBlock_eq last]

theorem FirstBlock.read_of_more
    (h : FirstBlock settings.startMarker.toList settings.endMarker.toList output.toList before inner
      after)
    (marked : ¬(settings.startMarker.toList = [] ∧ settings.endMarker.toList = []))
    (more : HoldsBlock settings.startMarker.toList settings.endMarker.toList after) :
    read settings output = (unresolved, some (.parse "multiple verdict blocks in output")) := by
  unfold read
  rw [h.onlyBlock_of_more marked more]

/-- The three cases there are. -/
theorem read_cases (settings : VerdictSettings) (output : String)
    (marked : ¬(settings.startMarker.toList = [] ∧ settings.endMarker.toList = [])) :
    (¬HoldsBlock settings.startMarker.toList settings.endMarker.toList output.toList ∧
      read settings output = (unresolved, some (.parse "no verdict block in output"))) ∨
    (∃ before inner after,
      FirstBlock settings.startMarker.toList settings.endMarker.toList output.toList before inner
        after ∧
      ¬HoldsBlock settings.startMarker.toList settings.endMarker.toList after ∧
      read settings output = (ofBlock settings (Text.trimChars inner), none)) ∨
    ∃ before inner after,
      FirstBlock settings.startMarker.toList settings.endMarker.toList output.toList before inner
        after ∧
      HoldsBlock settings.startMarker.toList settings.endMarker.toList after ∧
      read settings output = (unresolved, some (.parse "multiple verdict blocks in output")) := by
  by_cases holds : HoldsBlock settings.startMarker.toList settings.endMarker.toList output.toList
  · obtain ⟨before, inner, after, first⟩ := holds.exists_first
    by_cases more : HoldsBlock settings.startMarker.toList settings.endMarker.toList after
    · exact .inr (.inr ⟨before, inner, after, first, more, first.read_of_more marked more⟩)
    · exact .inr (.inl ⟨before, inner, after, first, more, first.read_eq more⟩)
  · exact .inl ⟨holds, read_of_not_holds holds⟩

end Output

end AgentTrial.Verdict
