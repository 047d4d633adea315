import AgentTrial.Text.Template
import Mathlib.Data.List.Infix
import Mathlib.Logic.Function.Basic

/-!
# Filling several slots

A template with several slots can be filled in one pass, in which no value is ever looked at, or
slot after slot, in which the later slots are also looked for in the earlier values.

* **One pass** — `parts` tells the slots of a template from its other characters, `substitute` puts
  the values of all slots in. For a single slot it is `fill` (`fill_eq_substituteIn`).
* **Occurrences** — `count` counts the places where a slot occurs. Putting texts together loses no
  occurrence, and where it brings none, filling does not see the seam (`count_append_le`,
  `substituteIn_append`).
* **Slot after slot** — two slots are filled in turn as they are at once, whatever the second value
  is, exactly when the first value brings no occurrence of the second slot
  (`fill_fill_eq_substitute_iff`).
-/

namespace AgentTrial.Text.Template

/-! ## One pass -/

/-- What stands at a place of a template. -/
inductive Part where
  | char (c : Char)
  | slot (name : String)
  deriving DecidableEq, Repr

/-- The parts of a template from left to right, without its first `skip` characters, which belong to
a slot. -/
def partsFrom (slots : List String) : (skip : Nat) → List Char → List Part
  | _, [] => []
  | skip + 1, _ :: cs => partsFrom slots skip cs
  | 0, c :: cs =>
    match slots.find? fun slot => slot ≠ "" ∧ slot.toList.isPrefixOf (c :: cs) with
    | some slot => .slot slot :: partsFrom slots (slot.toList.length - 1) cs
    | none => .char c :: partsFrom slots 0 cs

/-- The parts of a template. -/
def parts (slots : List String) (template : List Char) : List Part := partsFrom slots 0 template

/-- What a part is replaced by. -/
def Part.render (value : String → String) : Part → List Char
  | char c => [c]
  | slot name => (value name).toList

/-- A template with every slot replaced by its value. -/
def substituteIn (slots : List String) (value : String → String) (template : List Char) :
    List Char :=
  (parts slots template).flatMap (Part.render value)

/-- The value of a slot. -/
def valueOf (fillings : List (String × String)) (slot : String) : String :=
  (fillings.lookup slot).getD ""

/-- A template with every slot replaced by its value, all in one pass. -/
def substitute (fillings : List (String × String)) (template : String) : String :=
  String.ofList (substituteIn (fillings.map Prod.fst) (valueOf fillings) template.toList)

/-- The number of places where a slot occurs. -/
def count (slot : String) (template : List Char) : Nat :=
  template.tails.countP (slot.toList.isPrefixOf ·)

/-- A slot in braces, with no other brace in it. -/
def InBraces (slot : String) : Prop :=
  ∃ body, slot.toList = '\x7b' :: (body ++ ['\x7d']) ∧ '\x7b' ∉ body ∧ '\x7d' ∉ body

section Parts

variable {slots : List String} {slot : String} {c : Char} {cs xs ys : List Char}

theorem InBraces.ne_empty (braces : InBraces slot) : slot ≠ "" := by
  rintro rfl
  obtain ⟨body, chars, -⟩ := braces
  cases chars

theorem InBraces.of_mem_singleton (braces : InBraces slot) : ∀ other ∈ [slot], InBraces other := by
  simpa using braces

theorem InBraces.of_mem_pair {other : String} (braces : InBraces slot) (braces' : InBraces other) :
    ∀ name ∈ [slot, other], InBraces name := by
  simp [braces, braces']

/-- Slots in braces occur at the same place only if they are the same. -/
theorem InBraces.eq_of_begins {other : String} (h : InBraces slot) (h' : InBraces other)
    (here : slot.toList <+: cs) (here' : other.toList <+: cs) : slot = other := by
  -- the one that ends first has its closing brace in the other
  have one {s t : String} (h : InBraces s) (h' : InBraces t) (inside : s.toList <+: t.toList) :
      s = t := by
    obtain ⟨body, chars, -⟩ := h
    obtain ⟨body', chars', -, closed⟩ := h'
    rw [chars, chars', List.cons_prefix_cons] at inside
    rcases List.prefix_concat_iff.mp inside.2 with same | shorter
    · exact String.toList_inj.mp (by rw [chars, chars', same])
    · exact absurd (shorter.subset (List.mem_append_right _ List.mem_cons_self)) closed
  rcases List.prefix_or_prefix_of_prefix here here' with inside | inside
  · exact one h h' inside
  · exact (one h' h inside).symm

theorem partsFrom_eq (skip : Nat) : partsFrom slots skip cs = parts slots (cs.drop skip) := by
  induction cs generalizing skip with
  | nil => rw [List.drop_nil]; cases skip <;> rfl
  | cons c cs ih =>
      cases skip with
      | zero => rfl
      | succ skip => exact ih skip

theorem parts_cons (apart : ∀ slot ∈ slots, ¬slot.toList <+: c :: cs) :
    parts slots (c :: cs) = .char c :: parts slots cs := by
  have none : slots.find? (fun slot => slot ≠ "" ∧ slot.toList.isPrefixOf (c :: cs)) = none := by
    rw [List.find?_eq_none]
    intro slot mem
    simp [apart slot mem]
  rw [parts, partsFrom, none]
  rfl

theorem parts_slot_append (braces : ∀ slot ∈ slots, InBraces slot) (mem : slot ∈ slots) :
    parts slots (slot.toList ++ cs) = .slot slot :: parts slots cs := by
  obtain ⟨body, chars, -⟩ := braces slot mem
  have found : slots.find? (fun other => other ≠ "" ∧
      other.toList.isPrefixOf (slot.toList ++ cs)) = some slot := by
    have here : slot.toList <+: slot.toList ++ cs := List.prefix_append ..
    cases first : slots.find? (fun other => other ≠ "" ∧
      other.toList.isPrefixOf (slot.toList ++ cs)) with
    | none =>
        have apart := List.find?_eq_none.mp first slot mem
        simp [(braces slot mem).ne_empty] at apart
    | some other =>
        have holds := List.find?_some first
        simp only [decide_eq_true_eq, List.isPrefixOf_iff_prefix] at holds
        have same := (braces slot mem).eq_of_begins
          (braces other (List.mem_of_find?_eq_some first)) here holds.2
        rw [same]
  rw [chars] at found ⊢
  rw [parts, List.cons_append, partsFrom, ← List.cons_append, found]
  refine congrArg (Part.slot slot :: ·) ?_
  rw [chars, List.length_cons, Nat.add_sub_cancel, partsFrom_eq, List.drop_left]

/-- A template is empty, or it begins with a slot, or with a character that begins no slot. -/
theorem template_induction (braces : ∀ slot ∈ slots, InBraces slot) {motive : List Char → Prop}
    (nil : motive []) (slot : ∀ slot ∈ slots, ∀ cs, motive cs → motive (slot.toList ++ cs))
    (char : ∀ c cs, (∀ slot ∈ slots, ¬slot.toList <+: c :: cs) → motive cs → motive (c :: cs))
    (template : List Char) : motive template := by
  induction length : template.length using Nat.strong_induction_on generalizing template with
  | _ n ih =>
    cases template with
    | nil => exact nil
    | cons c cs =>
        by_cases here : ∃ slot ∈ slots, slot.toList <+: c :: cs
        · obtain ⟨name, mem, rest, eq⟩ := here
          obtain ⟨body, chars, -⟩ := braces name mem
          have shorter := congrArg List.length eq
          rw [chars] at shorter
          simp only [List.length_append, List.length_cons] at shorter length
          rw [← eq]
          exact slot name mem rest (ih rest.length (by omega) rest rfl)
        · refine char c cs (fun slot mem first => here ⟨slot, mem, first⟩) (ih cs.length ?_ cs rfl)
          rw [← length]
          exact Nat.lt_succ_self _

variable {value : String → String}

theorem substituteIn_nil : substituteIn slots value [] = [] := rfl

theorem substituteIn_cons (apart : ∀ slot ∈ slots, ¬slot.toList <+: c :: cs) :
    substituteIn slots value (c :: cs) = c :: substituteIn slots value cs := by
  unfold substituteIn
  rw [parts_cons apart]
  rfl

theorem substituteIn_slot_append (braces : ∀ slot ∈ slots, InBraces slot) (mem : slot ∈ slots) :
    substituteIn slots value (slot.toList ++ cs) =
      (value slot).toList ++ substituteIn slots value cs := by
  unfold substituteIn
  rw [parts_slot_append braces mem]
  rfl

/-- Without opening braces there is no slot. -/
theorem substituteIn_append_of_notMem (braces : ∀ slot ∈ slots, InBraces slot)
    (plain : '\x7b' ∉ xs) :
    substituteIn slots value (xs ++ ys) = xs ++ substituteIn slots value ys := by
  induction xs with
  | nil => rfl
  | cons c cs ih =>
      rw [List.mem_cons, not_or] at plain
      have apart : ∀ slot ∈ slots, ¬slot.toList <+: c :: (cs ++ ys) := by
        intro slot mem first
        obtain ⟨body, chars, -⟩ := braces slot mem
        rw [chars, List.cons_prefix_cons] at first
        exact plain.1 first.1
      rw [List.cons_append, substituteIn_cons apart, ih plain.2]
      rfl

/-- Only the values of the slots matter. -/
theorem substituteIn_congr {value' : String → String} (braces : ∀ slot ∈ slots, InBraces slot)
    (same : ∀ slot ∈ slots, value slot = value' slot) (template : List Char) :
    substituteIn slots value template = substituteIn slots value' template := by
  induction template using template_induction braces with
  | nil => rfl
  | slot slot mem cs ih =>
      rw [substituteIn_slot_append braces mem, substituteIn_slot_append braces mem, same slot mem,
        ih]
  | char c cs apart ih => rw [substituteIn_cons apart, substituteIn_cons apart, ih]

/-- A template whose slots are filled with themselves stays as it is. -/
theorem substituteIn_self {slots : List String} (braces : ∀ slot ∈ slots, InBraces slot)
    (template : List Char) : substituteIn slots id template = template := by
  induction template using template_induction braces with
  | nil => rfl
  | slot slot mem cs ih => rw [substituteIn_slot_append braces mem, ih]; rfl
  | char c cs apart ih => rw [substituteIn_cons apart, ih]

end Parts

/-! ## A single slot -/

section Single

variable {slot : String} {c : Char} {cs current : List Char}

/-- A template is filled piece by piece: what has been read of a piece stands in front of the
rest. -/
theorem intercalate_piecesFrom (braces : InBraces slot) (value : String) :
    value.toList.intercalate (piecesFrom slot.toList current cs) =
      current.reverse ++ substituteIn [slot] (fun _ => value) cs := by
  have some_piece (current cs : List Char) : piecesFrom slot.toList current cs ≠ [] := by
    induction cs generalizing current with
    | nil => simp [piecesFrom]
    | cons c cs ih => rw [piecesFrom]; split <;> simp [ih]
  fun_induction piecesFrom slot.toList current cs with
  | case1 current => simp [substituteIn_nil]
  | case2 current c cs here ih =>
      obtain ⟨rest, eq⟩ := List.isPrefixOf_iff_prefix.mp here.2
      rw [← eq, List.drop_left] at ih ⊢
      rw [List.intercalate_cons_of_ne_nil (some_piece _ _), ih,
        substituteIn_slot_append braces.of_mem_singleton List.mem_cons_self, List.append_assoc]
      rfl
  | case3 current c cs elsewhere ih =>
      have filled : slot.toList ≠ [] := mt String.toList_eq_nil_iff.mp braces.ne_empty
      have apart : ∀ other ∈ [slot], ¬other.toList <+: c :: cs := by
        simpa [filled] using elsewhere
      rw [ih, substituteIn_cons apart, List.reverse_cons, List.append_assoc]
      rfl

/-- For a single slot, one pass is what filling does. -/
theorem fill_eq_substituteIn (braces : InBraces slot) (value template : String) :
    (fill slot value template).toList =
      substituteIn [slot] (fun _ => value) template.toList := by
  rw [fill, pieces, String.toList_intercalate, List.map_map]
  have chars : String.toList ∘ String.ofList = id := funext fun _ => String.toList_ofList
  rw [chars, List.map_id]
  exact intercalate_piecesFrom braces value

/-- It does so whatever values the other slots are given. -/
theorem toList_fill (braces : InBraces slot) {value : String → String} {last : String}
    (same : value slot = last) (template : String) :
    (fill slot last template).toList = substituteIn [slot] value template.toList := by
  rw [fill_eq_substituteIn braces]
  exact substituteIn_congr braces.of_mem_singleton (by simp [same]) _

end Single

/-! ## Occurrences -/

section Occurrences

variable {slot other : String} {slots : List String} {value : String → String} {c : Char}
  {xs ys : List Char}

theorem count_cons :
    count slot (c :: xs) = count slot xs + if slot.toList <+: c :: xs then 1 else 0 := by
  simp [count, List.countP_cons]

theorem count_nil (braces : InBraces slot) : count slot [] = 0 := by
  obtain ⟨body, chars, -⟩ := braces
  simp [count, chars]

theorem count_append_of_notMem (braces : InBraces slot) (plain : '\x7b' ∉ xs) :
    count slot (xs ++ ys) = count slot ys := by
  induction xs with
  | nil => rfl
  | cons c cs ih =>
      rw [List.mem_cons, not_or] at plain
      have apart : ¬slot.toList <+: c :: (cs ++ ys) := by
        intro first
        obtain ⟨body, chars, -⟩ := braces
        rw [chars, List.cons_prefix_cons] at first
        exact plain.1 first.1
      rw [List.cons_append, count_cons, if_neg apart, Nat.add_zero, ih plain.2]

/-- In front of a text a slot in braces is one occurrence more of itself and of no other slot. -/
theorem count_slot_append (braces : InBraces slot) (braces' : InBraces other) :
    count slot (other.toList ++ xs) = count slot xs + if slot = other then 1 else 0 := by
  have here : slot.toList <+: other.toList ++ xs ↔ slot = other := by
    constructor
    · intro first
      exact braces.eq_of_begins braces' first (List.prefix_append ..)
    · rintro rfl
      exact List.prefix_append ..
  obtain ⟨body, chars, opened, -⟩ := braces'
  have plain : '\x7b' ∉ body ++ ['\x7d'] := by
    simpa using opened
  rw [chars, List.cons_append] at here ⊢
  rw [count_cons, count_append_of_notMem braces plain]
  simp only [here]

/-- Putting texts together loses no occurrence. -/
theorem count_append_le (braces : InBraces slot) (xs ys : List Char) :
    count slot xs + count slot ys ≤ count slot (xs ++ ys) := by
  induction xs with
  | nil => rw [count_nil braces, Nat.zero_add]; exact Nat.le_refl _
  | cons c cs ih =>
      rw [List.cons_append, count_cons, count_cons]
      have kept : slot.toList <+: c :: cs → slot.toList <+: c :: (cs ++ ys) := fun first =>
        first.trans (List.prefix_append (c :: cs) ys)
      split <;> split <;> first | omega | (rename_i here there; exact absurd (kept here) there)

/-- Where putting texts together brings no occurrence, filling does not see the seam. -/
theorem substituteIn_append (braces : InBraces slot)
    (same : count slot (xs ++ ys) = count slot xs + count slot ys) :
    substituteIn [slot] value (xs ++ ys) =
      substituteIn [slot] value xs ++ substituteIn [slot] value ys := by
  have all := braces.of_mem_singleton
  induction xs using template_induction all with
  | nil => rfl
  | slot other mem cs ih =>
      obtain rfl := List.mem_singleton.mp mem
      rw [List.append_assoc, count_slot_append braces braces, count_slot_append braces braces]
        at same
      rw [List.append_assoc, substituteIn_slot_append all mem, substituteIn_slot_append all mem,
        ih (by omega), List.append_assoc]
  | char c cs apart ih =>
      -- the seam neither completes an occurrence that begins here nor one that begins later
      have here := apart slot List.mem_cons_self
      have later := count_append_le braces cs ys
      rw [List.cons_append, count_cons, count_cons, if_neg here] at same
      have still : ¬slot.toList <+: c :: (cs ++ ys) := by
        intro first
        rw [if_pos first] at same
        omega
      rw [if_neg still] at same
      rw [List.cons_append, substituteIn_cons (by simpa using still), substituteIn_cons apart,
        ih (by omega), List.cons_append]

/-- Without occurrences nothing is replaced. -/
theorem substituteIn_of_count_eq_zero (braces : InBraces slot) (none : count slot xs = 0) :
    substituteIn [slot] value xs = xs := by
  have all := braces.of_mem_singleton
  induction xs using template_induction all with
  | nil => rfl
  | slot other mem cs ih =>
      obtain rfl := List.mem_singleton.mp mem
      rw [count_slot_append braces braces, if_pos rfl] at none
      omega
  | char c cs apart ih =>
      rw [count_cons, Nat.add_eq_zero_iff] at none
      rw [substituteIn_cons apart, ih none.1]

/-- Each occurrence of a slot is as long as its value. -/
theorem length_substituteIn (braces : ∀ slot ∈ slots, InBraces slot) (mem : slot ∈ slots) :
    (substituteIn slots value xs).length =
      (substituteIn slots (Function.update value slot "") xs).length +
        count slot xs * (value slot).length := by
  induction xs using template_induction braces with
  | nil => rw [count_nil (braces slot mem), Nat.zero_mul]; rfl
  | slot other mem' cs ih =>
      rw [substituteIn_slot_append braces mem', substituteIn_slot_append braces mem',
        count_slot_append (braces slot mem) (braces other mem'), List.length_append,
        List.length_append, ih]
      by_cases same : slot = other
      · subst same
        rw [Function.update_self, if_pos rfl, Nat.add_mul, Nat.one_mul, String.length_toList]
        simp only [String.toList_empty, List.length_nil, Nat.zero_add]
        omega
      · rw [Function.update_of_ne (Ne.symm same), if_neg same, Nat.add_zero, Nat.add_assoc]
  | char c cs apart ih =>
      rw [substituteIn_cons apart, substituteIn_cons apart, count_cons, if_neg (apart slot mem),
        Nat.add_zero, List.length_cons, List.length_cons, ih]
      omega

end Occurrences

/-! ## Slot after slot -/

section Twice

variable {first second : String} {value : String → String} {template : List Char}

/-- A slot that is not filled stays. -/
theorem substituteIn_other_append (braces : InBraces first) (braces' : InBraces second)
    (ne : first ≠ second) :
    substituteIn [first] value (second.toList ++ template) =
      second.toList ++ substituteIn [first] value template := by
  have alone := braces.of_mem_singleton
  have apart : ∀ slot ∈ [first], ¬slot.toList <+: second.toList ++ template := by
    intro slot mem here
    obtain rfl := List.mem_singleton.mp mem
    exact ne (braces.eq_of_begins braces' here (List.prefix_append ..))
  obtain ⟨body, chars, opened, -⟩ := braces'
  have plain : '\x7b' ∉ body ++ ['\x7d'] := by
    simpa using opened
  rw [chars, List.cons_append] at apart ⊢
  rw [substituteIn_cons apart, substituteIn_append_of_notMem alone plain, List.cons_append]

/-- The first value may bring occurrences of the second slot and takes none away, and if it brings
none the slots can be filled in turn. -/
theorem substituteIn_substituteIn (braces : InBraces first) (braces' : InBraces second)
    (ne : first ≠ second) :
    count second template ≤ count second (substituteIn [first] value template) ∧
      (count second (substituteIn [first] value template) = count second template →
        substituteIn [second] value (substituteIn [first] value template) =
          substituteIn [first, second] value template) := by
  have alone := braces.of_mem_singleton
  have alone' := braces'.of_mem_singleton
  have both := braces.of_mem_pair braces'
  have mem : first ∈ [first, second] := by simp
  have mem' : second ∈ [first, second] := by simp
  induction template using template_induction both with
  | nil => exact ⟨Nat.le_refl _, fun _ => rfl⟩
  | slot slot here cs ih =>
      obtain ⟨kept, turn⟩ := ih
      rcases List.mem_pair.mp here with rfl | rfl
      · -- its value is followed by the rest, filled
        rw [substituteIn_slot_append alone (by simp), substituteIn_slot_append both mem,
          count_slot_append braces' braces, if_neg ne.symm, Nat.add_zero]
        have seam := count_append_le braces' (value slot).toList
          (substituteIn [slot] value cs)
        refine ⟨by omega, fun same => ?_⟩
        rw [substituteIn_append braces' (by omega), substituteIn_of_count_eq_zero braces' (by omega),
          turn (by omega)]
      · -- it is left for later
        rw [substituteIn_other_append braces braces' ne, count_slot_append braces' braces',
          count_slot_append braces' braces', if_pos rfl,
          substituteIn_slot_append alone' (by simp), substituteIn_slot_append both mem']
        refine ⟨by omega, fun same => ?_⟩
        rw [turn (by omega)]
  | char c cs apart ih =>
      obtain ⟨kept, turn⟩ := ih
      have elsewhere := apart second mem'
      rw [substituteIn_cons (by simpa using apart first mem), substituteIn_cons apart, count_cons,
        count_cons, if_neg elsewhere]
      refine ⟨by omega, fun same => ?_⟩
      have still : ¬second.toList <+: c :: substituteIn [first] value cs := by
        intro here
        rw [if_pos here] at same
        omega
      rw [if_neg still] at same
      rw [substituteIn_cons (by simpa using still), turn (by omega)]

/-- The values of two slots. -/
theorem valueOf_pair (ne : first ≠ second) (path last : String) :
    valueOf [(first, path), (second, last)] first = path ∧
      valueOf [(first, path), (second, last)] second = last := by
  simp [valueOf, List.lookup_cons, beq_eq_false_iff_ne.mpr ne.symm]

/-- Each occurrence of a slot makes a filled text as long as its value is. -/
theorem length_fill (braces : InBraces first) (last text : String) :
    (fill first last text).length =
      (fill first "" text).length + count first text.toList * last.length := by
  have filled : (substituteIn [first] (fun _ => last) text.toList).length = _ :=
    length_substituteIn braces.of_mem_singleton List.mem_cons_self
  rw [← String.length_toList, ← String.length_toList, fill_eq_substituteIn braces, filled,
    toList_fill braces (Function.update_self first "" _)]

/-- So does each occurrence of the second of two slots that are filled at once. -/
theorem length_substitute (braces : InBraces first) (braces' : InBraces second)
    (ne : first ≠ second) (path last text : String) :
    (substitute [(first, path), (second, last)] text).length =
      (substitute [(first, path), (second, "")] text).length +
        count second text.toList * last.length := by
  have both := braces.of_mem_pair braces'
  have emptied : ∀ slot ∈ [first, second],
      Function.update (valueOf [(first, path), (second, last)]) second "" slot =
        valueOf [(first, path), (second, "")] slot := by
    simp [Function.update_of_ne ne, valueOf_pair ne]
  rw [substitute, substitute, String.length_ofList, String.length_ofList]
  show (substituteIn [first, second] _ _).length = (substituteIn [first, second] _ _).length + _
  rw [length_substituteIn both (List.mem_cons_of_mem _ List.mem_cons_self),
    substituteIn_congr both emptied, (valueOf_pair ne path last).2]

variable {ι : Type}

/-- **Slot after slot.** Two slots are filled in turn as they are at once, whatever the second value
is, exactly when the first value brings no occurrence of the second slot. The second value is one
of a family in which some value is by one character longer than another. -/
theorem fill_fill_eq_substitute_iff (braces : InBraces first) (braces' : InBraces second)
    (ne : first ≠ second) (path text : String) (value : ι → String) {i j : ι}
    (longer : (value j).length = (value i).length + 1) :
    (∀ i, fill second (value i) (fill first path text) =
        substitute [(first, path), (second, value i)] text) ↔
      count second (fill first path text).toList = count second text.toList := by
  constructor
  · intro equal
    have length (i : ι) := congrArg String.length (equal i)
    have less := length i
    have more := length j
    rw [length_fill braces', length_substitute braces braces' ne] at less more
    -- one character more, at each occurrence on either side
    rw [longer, Nat.mul_succ, Nat.mul_succ] at more
    omega
  · intro same i
    obtain ⟨one, two⟩ := valueOf_pair ne path (value i)
    refine String.toList_inj.mp ?_
    rw [toList_fill braces one] at same
    rw [toList_fill braces' two, toList_fill braces one,
      (substituteIn_substituteIn braces braces' ne).2 same]
    exact String.toList_ofList.symm

end Twice

end AgentTrial.Text.Template
