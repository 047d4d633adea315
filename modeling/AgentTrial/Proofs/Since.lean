/-!
# What has happened since

A record, oldest first, read from its end: `Since p q xs` says that something of kind `p` is in it
and that all after it is of kind `q`. It is decided by the last of the record and what holds without
it (`since_concat`).
-/

namespace AgentTrial

variable {α : Type} {p p' q q' : α → Prop} {xs ys : List α} {x : α}

/-- Something of kind `p` is in the list, and all that comes after it is of kind `q`. -/
def Since (p q : α → Prop) (xs : List α) : Prop :=
  ∃ before x after, xs = before ++ x :: after ∧ p x ∧ ∀ y ∈ after, q y

namespace Since

theorem not_nil : ¬ Since p q [] := by
  rintro ⟨before, x, after, split, -⟩
  simp at split

theorem cons_iff : Since p q (x :: xs) ↔ (p x ∧ ∀ y ∈ xs, q y) ∨ Since p q xs := by
  constructor
  · rintro ⟨before, y, after, split, here, rest⟩
    cases before with
    | nil =>
        obtain ⟨rfl, rfl⟩ := List.cons_eq_cons.mp split
        exact .inl ⟨here, rest⟩
    | cons z before =>
        obtain ⟨-, rfl⟩ := List.cons_eq_cons.mp split
        exact .inr ⟨before, y, after, rfl, here, rest⟩
  · rintro (⟨here, rest⟩ | ⟨before, y, after, rfl, here, rest⟩)
    · exact ⟨[], x, xs, rfl, here, rest⟩
    · exact ⟨x :: before, y, after, rfl, here, rest⟩

instance decidable [DecidablePred p] [DecidablePred q] : (xs : List α) → Decidable (Since p q xs)
  | [] => isFalse not_nil
  | _ :: xs =>
    have := decidable xs
    decidable_of_iff' _ cons_iff

/-- The last of the list is what is looked for, or it is no hindrance. -/
theorem concat_iff : Since p q (xs ++ [x]) ↔ p x ∨ q x ∧ Since p q xs := by
  constructor
  · rintro ⟨before, y, after, split, here, rest⟩
    rcases List.eq_nil_or_concat after with rfl | ⟨after, z, rfl⟩
    · obtain ⟨-, last⟩ := List.append_inj' split rfl
      obtain rfl := List.singleton_inj.mp last
      exact .inl here
    · have longer : xs ++ [x] = (before ++ y :: after) ++ [z] := by simpa using split
      obtain ⟨rfl, last⟩ := List.append_inj' longer rfl
      obtain rfl := List.singleton_inj.mp last
      refine .inr ⟨rest x (by simp), before, y, after, rfl, here, fun z mem => rest z ?_⟩
      simp [mem]
  · rintro (here | ⟨last, before, y, after, rfl, here, rest⟩)
    · exact ⟨xs, x, [], rfl, here, nofun⟩
    · refine ⟨before, y, after ++ [x], by simp, here, fun z mem => ?_⟩
      rcases List.mem_append.mp mem with mem | mem
      · exact rest z mem
      · exact List.mem_singleton.mp mem ▸ last

/-- What is neither looked for nor a hindrance does not matter. -/
theorem append_iff (quiet : ∀ y ∈ ys, q y ∧ ¬ p y) : Since p q (xs ++ ys) ↔ Since p q xs := by
  induction ys generalizing xs with
  | nil => rw [List.append_nil]
  | cons y ys ih =>
      have first := quiet y List.mem_cons_self
      rw [List.append_cons, ih fun z mem => quiet z (List.mem_cons_of_mem _ mem), concat_iff]
      exact ⟨fun h => h.elim (absurd · first.2) And.right, fun h => .inr ⟨first.1, h⟩⟩

theorem imp (h : Since p q xs) (found : ∀ x ∈ xs, p x → p' x) (rest : ∀ x ∈ xs, q x → q' x) :
    Since p' q' xs := by
  obtain ⟨before, x, after, rfl, here, others⟩ := h
  refine ⟨before, x, after, rfl, found x (by simp) here, fun y mem => rest y ?_ (others y mem)⟩
  simp [mem]

theorem congr (found : ∀ x ∈ xs, p x ↔ p' x) (rest : ∀ x ∈ xs, q x ↔ q' x) :
    Since p q xs ↔ Since p' q' xs :=
  ⟨fun h => h.imp (fun x mem => (found x mem).mp) fun x mem => (rest x mem).mp,
    fun h => h.imp (fun x mem => (found x mem).mpr) fun x mem => (rest x mem).mpr⟩

end Since

end AgentTrial
