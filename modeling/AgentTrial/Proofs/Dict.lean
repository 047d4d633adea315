import AgentTrial.Dict
import Mathlib.Data.List.Sort

/-!
# Looking up in dictionaries

A dictionary is known by what it answers.

* **Answers** — a key has the value that its one binding says (`get?_eq_some_iff`), and of several
  bindings that would do the one with the least key is found (`key_lt_of_find?`).
* **Changes** — altering a key changes the answer to that key and to no other (`get?_alter`).
* **Equality** — dictionaries that answer alike are equal (`ext_get?`).
* **Making** — a dictionary is made of its own bindings (`ofList_entries`).
-/

namespace AgentTrial.Dict

variable {α : Type} {key other : String} {value value' : α} {d d' : Dict α}

/-- A key is bound once. -/
theorem binding_unique (h : (key, value) ∈ d.entries) (h' : (key, value') ∈ d.entries) :
    value = value' := by
  have once : (d.entries.map (·.1)).Nodup :=
    List.pairwise_map.mpr (d.ascending.imp fun less => String.ne_of_lt less)
  have same := List.inj_on_of_nodup_map once h h' rfl
  exact (Prod.mk.inj same).2

theorem get?_eq_some_iff : d.get? key = some value ↔ (key, value) ∈ d.entries := by
  unfold get?
  constructor
  · intro found
    obtain ⟨⟨k, v⟩, first, rfl⟩ := Option.map_eq_some_iff.mp found
    have same : k = key := by simpa using List.find?_some first
    rw [← same]
    exact List.mem_of_find?_eq_some first
  · intro mem
    rcases first : d.entries.find? (·.1 = key) with _ | ⟨k, v⟩
    · exact absurd (List.find?_eq_none.mp first _ mem) (by simp)
    · have same : k = key := by simpa using List.find?_some first
      subst same
      have bound := List.mem_of_find?_eq_some first
      rw [first, binding_unique mem bound]
      rfl

theorem get?_eq_none_iff : d.get? key = none ↔ ∀ p ∈ d.entries, p.1 ≠ key := by
  unfold get?
  simp

/-- Of the bindings that are looked for, the one with the least key is found. -/
theorem key_lt_of_find? {wanted : String × α → Bool} {entry entry' : String × α}
    (found : d.entries.find? wanted = some entry) (mem : entry' ∈ d.entries)
    (holds : wanted entry' = true) (different : entry'.1 ≠ entry.1) : entry.1 < entry'.1 := by
  obtain ⟨-, before, after, parts, passed⟩ := List.find?_eq_some_iff_append.mp found
  have ascending := d.ascending
  rw [parts] at ascending mem
  rcases List.mem_append.mp mem with earlier | later
  · have fails := passed entry' earlier
    rw [holds] at fails
    cases fails
  · obtain ⟨-, ascending, -⟩ := List.pairwise_append.mp ascending
    rcases List.mem_cons.mp later with rfl | later
    · exact absurd rfl different
    · exact (List.pairwise_cons.mp ascending).1 entry' later

/-- Altering another key does not change what is found. -/
theorem find?_alterEntries_of_ne (different : other ≠ key) (f : Option α → α)
    (entries : List (String × α)) :
    (alterEntries key f entries).find? (·.1 = other) = entries.find? (·.1 = other) := by
  induction entries with
  | nil => simp [alterEntries, different.symm]
  | cons e rest ih =>
      obtain ⟨k, v⟩ := e
      unfold alterEntries
      split
      · rename_i same
        subst same
        simp [different.symm]
      · split
        · simp [different.symm]
        · simp only [List.find?_cons, ih]

/-- The altered key is bound to what becomes of its value. -/
theorem mem_alterEntries_self (f : Option α → α) {entries : List (String × α)}
    (ascending : entries.Pairwise fun a b => a.1 < b.1) :
    (key, f ((entries.find? (·.1 = key)).map (·.2))) ∈ alterEntries key f entries := by
  induction entries with
  | nil => simp [alterEntries]
  | cons e rest ih =>
      obtain ⟨k, v⟩ := e
      obtain ⟨least, ascending⟩ := List.pairwise_cons.mp ascending
      unfold alterEntries
      split
      · rename_i same
        subst same
        simp
      · rename_i different
        have passed : ¬k = key := fun same => different same.symm
        split
        · rename_i before
          -- all keys from here on are greater
          have absent : rest.find? (·.1 = key) = none := by
            refine List.find?_eq_none.mpr fun p mem same => ?_
            have after := least p mem
            rw [show p.1 = key by simpa using same] at after
            exact absurd (String.lt_trans before after) (String.lt_irrefl key)
          simp [passed, absent]
        · simp [passed, ih ascending]

/-- Altering a key changes the answer to that key and to no other. -/
theorem get?_alter (f : Option α → α) :
    (d.alter key f).get? other = if other = key then some (f (d.get? key)) else d.get? other := by
  by_cases same : other = key
  · subst same
    rw [if_pos rfl]
    exact get?_eq_some_iff.mpr (mem_alterEntries_self f d.ascending)
  · rw [if_neg same]
    unfold get? alter
    rw [find?_alterEntries_of_ne same]

/-- Dictionaries that answer alike are equal. -/
theorem ext_get? (same : ∀ key, d.get? key = d'.get? key) : d = d' := by
  have members : ∀ p, p ∈ d.entries ↔ p ∈ d'.entries := by
    rintro ⟨key, value⟩
    rw [← get?_eq_some_iff, ← get?_eq_some_iff, same]
  have : Std.Irrefl fun a b : String × α => a.1 < b.1 := ⟨fun a => String.lt_irrefl a.1⟩
  have : Std.Antisymm fun a b : String × α => a.1 < b.1 :=
    ⟨fun a b less greater => absurd (String.lt_trans less greater) (String.lt_irrefl a.1)⟩
  have entries : d.entries = d'.entries := d.ascending.eq_of_mem_iff d'.ascending members
  cases d
  cases d'
  cases entries
  rfl

/-- A binding of a key beyond all others comes last. -/
theorem alterEntries_last (f : Option α → α) {entries : List (String × α)}
    (beyond : ∀ e ∈ entries, e.1 < key) :
    alterEntries key f entries = entries ++ [(key, f none)] := by
  induction entries with
  | nil => rfl
  | cons e rest ih =>
      obtain ⟨before, beyond⟩ := List.forall_mem_cons.mp beyond
      have different : key ≠ e.1 := (String.ne_of_lt before).symm
      have notBefore : ¬ key < e.1 := fun after => String.lt_irrefl _ (String.lt_trans before after)
      rw [alterEntries, if_neg different, if_neg notBefore, ih beyond, List.cons_append]

/-- Bindings in ascending order beyond those of a dictionary come after them. -/
theorem foldl_insert_entries {entries : List (String × α)}
    (ascending : (d.entries ++ entries).Pairwise fun a b => a.1 < b.1) :
    (entries.foldl (fun d (key, value) => d.insert key value) d).entries =
      d.entries ++ entries := by
  induction entries generalizing d with
  | nil => simp
  | cons e entries ih =>
      have beyond : ∀ e' ∈ d.entries, e'.1 < e.1 := fun e' mem =>
        (List.pairwise_append.mp ascending).2.2 e' mem e List.mem_cons_self
      have inserted : (d.insert e.1 e.2).entries = d.entries ++ [e] := alterEntries_last _ beyond
      rw [List.append_cons, ← inserted] at ascending
      rw [List.foldl_cons, ih ascending, inserted, ← List.append_cons]

/-- A dictionary is made of its own bindings. -/
theorem ofList_entries (d : Dict α) : ofList d.entries = d := by
  obtain ⟨entries, ascending⟩ := d
  have built : (ofList entries).entries = entries := foldl_insert_entries ascending
  cases made : ofList entries
  simp only [made] at built
  simp only [built]

end AgentTrial.Dict
