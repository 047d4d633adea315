/-!
# Dictionaries

Finite maps from texts to values, kept in ascending order of their keys, so that every listing of a
dictionary is in that order and two dictionaries with the same bindings are equal.

- `alter` adds or changes one binding; `insert` and `ofList` are made of it.
-/

namespace AgentTrial

/-- Bindings in ascending order of their keys. -/
structure Dict (α : Type) where
  entries : List (String × α)
  ascending : entries.Pairwise fun a b => a.1 < b.1

namespace Dict

variable {α : Type}

/-- The bindings with the one of `key` changed by `f`, or added in its place. -/
def alterEntries (key : String) (f : Option α → α) : List (String × α) → List (String × α)
  | [] => [(key, f none)]
  | (k, v) :: rest =>
    if key = k then (k, f (some v)) :: rest
    else if key < k then (key, f none) :: (k, v) :: rest
    else (k, v) :: alterEntries key f rest

theorem mem_alterEntries_key {key : String} {f : Option α → α} {entries : List (String × α)}
    {p : String × α} (h : p ∈ alterEntries key f entries) :
    p.1 = key ∨ ∃ q ∈ entries, q.1 = p.1 := by
  induction entries with
  | nil => simp_all [alterEntries]
  | cons e rest ih =>
    obtain ⟨k, v⟩ := e
    grind [alterEntries]

theorem alterEntries_ascending {key : String} {f : Option α → α} {entries : List (String × α)}
    (h : entries.Pairwise fun a b => a.1 < b.1) :
    (alterEntries key f entries).Pairwise fun a b => a.1 < b.1 := by
  induction entries with
  | nil => simp [alterEntries]
  | cons e rest ih =>
    obtain ⟨k, v⟩ := e
    obtain ⟨hk, hrest⟩ := List.pairwise_cons.1 h
    unfold alterEntries
    split
    · exact List.pairwise_cons.2 ⟨hk, hrest⟩
    · split
      · rename_i hlt
        refine List.pairwise_cons.2 ⟨fun p hp => ?_, h⟩
        rcases List.mem_cons.1 hp with rfl | hp
        · exact hlt
        · exact String.lt_trans hlt (hk p hp)
      · rename_i hne hnlt
        refine List.pairwise_cons.2 ⟨fun p hp => ?_, ih hrest⟩
        rcases mem_alterEntries_key hp with hp | ⟨q, hq, hp⟩
        · rw [hp]
          rcases Std.lt_trichotomy key k with h | h | h
          · exact absurd h hnlt
          · exact absurd h hne
          · exact h
        · rw [← hp]
          exact hk q hq

/-- The dictionary without bindings. -/
def empty : Dict α := ⟨[], List.Pairwise.nil⟩

instance : Inhabited (Dict α) := ⟨empty⟩

/-- The dictionary with the binding of `key` changed by `f`, or added in its place. -/
def alter (key : String) (f : Option α → α) (d : Dict α) : Dict α :=
  ⟨alterEntries key f d.entries, alterEntries_ascending d.ascending⟩

/-- The dictionary with `key` bound to `value`. -/
def insert (d : Dict α) (key : String) (value : α) : Dict α :=
  d.alter key fun _ => value

/-- The bindings of a list; of two bindings of one key the later counts. -/
def ofList (bindings : List (String × α)) : Dict α :=
  bindings.foldl (fun d (key, value) => d.insert key value) empty

/-- The value of a key. -/
def get? (d : Dict α) (key : String) : Option α :=
  (d.entries.find? (·.1 = key)).map (·.2)

def isEmpty (d : Dict α) : Bool := d.entries.isEmpty

/-- The values in ascending order of their keys. -/
def values (d : Dict α) : List α := d.entries.map (·.2)

end Dict

end AgentTrial
