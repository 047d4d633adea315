import AgentTrial.Proofs.Text.Template

/-!
# The pieces between slots

Filling a slot joins the pieces of the template around it with the value, so the pieces are all
there is to know of a template.

* **Cuts** — the pieces of a template are what stands between the occurrences of the slot, one more
  than there are occurrences and none in any of them (`cutAt_pieces`).
* **Earlier fillings** — a slot that is filled before leaves every occurrence of a later one, so each
  makes a seam (`count_lt_length_pieces`).
* **Values** — between two pieces stands the value as it is (`isInfix_intercalate`).
-/

namespace AgentTrial.Text.Template

/-- The text is the pieces with the slot between them, and the slot is nowhere else. -/
structure CutAt (slot text : String) (pieces : List String) : Prop where
  joined : slot.intercalate pieces = text
  clean : ∀ piece ∈ pieces, count slot piece.toList = 0
  length : pieces.length = count slot text.toList + 1

section Cuts

variable {slot : String} {current cs : List Char}

theorem length_piecesFrom (braces : InBraces slot) :
    (piecesFrom slot.toList current cs).length = count slot cs + 1 := by
  have filled : slot.toList ≠ [] := mt String.toList_eq_nil_iff.mp braces.ne_empty
  fun_induction piecesFrom slot.toList current cs with
  | case1 current => rw [count_nil braces]; rfl
  | case2 current c cs here ih =>
      obtain ⟨rest, eq⟩ := List.isPrefixOf_iff_prefix.mp here.2
      rw [← eq, List.drop_left] at ih ⊢
      rw [List.length_cons, ih, count_slot_append braces braces, if_pos rfl]
  | case3 current c cs elsewhere ih =>
      have apart : ¬slot.toList <+: c :: cs := by
        simpa [filled] using elsewhere
      rw [ih, count_cons, if_neg apart, Nat.add_zero]

/-- No piece has the slot in it, if what has been read of the first does not begin one. -/
theorem count_of_mem_piecesFrom (braces : InBraces slot)
    (begun : count slot (current.reverse ++ cs) = count slot cs) :
    ∀ piece ∈ piecesFrom slot.toList current cs, count slot piece = 0 := by
  have filled : slot.toList ≠ [] := mt String.toList_eq_nil_iff.mp braces.ne_empty
  fun_induction piecesFrom slot.toList current cs with
  | case1 current =>
      intro piece mem
      rw [List.mem_singleton.mp mem, ← count_nil braces, ← begun, List.append_nil]
  | case2 current c cs here ih =>
      intro piece mem
      rcases List.mem_cons.mp mem with rfl | mem
      · -- what stands before the slot adds no occurrence, so it has none of its own
        have less := count_append_le braces current.reverse (c :: cs)
        omega
      · exact ih (by simp) piece mem
  | case3 current c cs elsewhere ih =>
      have apart : ¬slot.toList <+: c :: cs := by
        simpa [filled] using elsewhere
      refine ih ?_
      rw [List.reverse_cons, List.append_assoc, List.singleton_append, begun, count_cons,
        if_neg apart, Nat.add_zero]

theorem length_pieces (braces : InBraces slot) (text : String) :
    (pieces slot text).length = count slot text.toList + 1 := by
  rw [pieces, List.length_map, length_piecesFrom braces]

/-- A template filled with its own slot stays as it is. -/
theorem fill_self (braces : InBraces slot) (text : String) : fill slot slot text = text := by
  have same : id slot = slot := rfl
  refine String.toList_inj.mp ?_
  rw [toList_fill braces same, substituteIn_self braces.of_mem_singleton]

theorem cutAt_pieces (braces : InBraces slot) (text : String) :
    CutAt slot text (pieces slot text) where
  joined := fill_self braces text
  clean := by
    intro piece mem
    obtain ⟨chars, listed, rfl⟩ := List.mem_map.mp mem
    rw [String.toList_ofList]
    exact count_of_mem_piecesFrom braces rfl chars listed
  length := length_pieces braces text

theorem occurs_iff (braces : InBraces slot) (text : String) :
    occurs slot text = true ↔ 0 < count slot text.toList := by
  have filled : slot.isEmpty = false := by simpa using braces.ne_empty
  simp [occurs, filled, length_pieces braces]

end Cuts

section Seams

variable {first second : String}

/-- Every occurrence of a slot is a seam, whatever is put in for another slot before. -/
theorem count_lt_length_pieces (braces : InBraces first) (braces' : InBraces second)
    (ne : first ≠ second) (value text : String) :
    count second text.toList < (pieces second (fill first value text)).length := by
  have kept : count second text.toList ≤
      count second (substituteIn [first] (fun _ => value) text.toList) :=
    (substituteIn_substituteIn braces braces' ne).1
  rw [← fill_eq_substituteIn braces] at kept
  rw [length_pieces braces']
  exact Nat.lt_succ_of_le kept

/-- A value stands as it is between the pieces that it joins. -/
theorem isInfix_intercalate (value : String) {pieces : List String} (seam : 2 ≤ pieces.length) :
    value.toList <:+: (value.intercalate pieces).toList := by
  obtain ⟨before, after, rest, rfl⟩ : ∃ a b rest, pieces = a :: b :: rest := by
    match pieces, seam with
    | a :: b :: rest, _ => exact ⟨a, b, rest, rfl⟩
  rw [String.toList_intercalate, List.map_cons, List.map_cons,
    List.intercalate_cons_of_ne_nil (List.cons_ne_nil _ _), List.append_assoc]
  exact ⟨before.toList, _, List.append_assoc ..⟩

end Seams

end AgentTrial.Text.Template
