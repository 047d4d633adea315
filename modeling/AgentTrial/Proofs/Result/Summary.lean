import AgentTrial.Result.Summary
import Mathlib.Data.List.Forall2

/-!
# What a summary adds up to

The numbers of a summary against the results it is made of.

* **Fates** — a task is resolved, unresolved or failed, and every result counts for one of the three
  (`count_sum`). The two predicates that a summary counts with pick out the first and the last.
* **Accounts** — so the numbers of a summary are those of the fates, its failures are the failed
  results one by one, and it does not matter in what parts or in what order the results come
  (`ofResults_accounts`).
-/

namespace AgentTrial

/-- What became of a task. -/
inductive Fate where
  | resolved
  | unresolved
  | failed
  deriving DecidableEq, Repr

/-- The fate that an outcome tells. -/
def Outcome.fate : Outcome → Fate
  | .success true _ => .resolved
  | .success false _ => .unresolved
  | .failed _ _ => .failed

/-- A failure tells the name and the error of a failed result. -/
def Failure.Tells (r : TaskResult) (f : Failure) : Prop :=
  f.taskName = r.taskName ∧ ∃ stage, r.outcome = .failed stage f.error

namespace Summary

/-! ## Fates -/

section Fates

variable (results : List TaskResult)

/-- How many of some results tell a fate. -/
def count (fate : Fate) : Nat := results.countP (·.outcome.fate = fate)

/-- Every result counts for one fate. -/
theorem count_sum :
    count results .resolved + count results .unresolved + count results .failed =
      results.length := by
  unfold count
  induction results with
  | nil => rfl
  | cons r rest ih =>
      simp only [List.countP_cons, List.length_cons]
      cases r.outcome.fate <;> simp <;> omega

/-- A result is taken for resolved by its fate. -/
theorem length_resolved :
    (results.filter (·.outcome.isResolved)).length = count results .resolved := by
  rw [count, List.countP_eq_length_filter]
  congr 2
  funext r
  rcases r.outcome with ⟨_ | _, _⟩ | _ <;> rfl

/-- The listed failures are the failed results, one by one. -/
theorem forall₂_failures :
    List.Forall₂ Failure.Tells (results.filter (·.outcome.fate = .failed))
      (results.filterMap failure?) := by
  induction results with
  | nil => exact .nil
  | cons r rest ih =>
      rw [List.filter_cons, List.filterMap_cons, failure?]
      cases ended : r.outcome with
      | success resolved tests => cases resolved <;> exact ih
      | failed stage error => exact .cons ⟨rfl, stage, ended⟩ ih

/-- As many failures are listed as results failed. -/
theorem length_failures : (results.filterMap failure?).length = count results .failed := by
  rw [count, List.countP_eq_length_filter]
  exact (forall₂_failures results).length_eq.symm

end Fates

/-! ## Accounts -/

/-- What a summary says of the results it is made of. -/
structure Accounts (results : List TaskResult) (s : Summary) : Prop where
  total : s.total = results.length
  resolved : s.resolved = count results .resolved
  unresolved : s.unresolved = count results .unresolved
  failed : s.failed = count results .failed
  /-- What is taken away from the total is never more than the total, … -/
  covered : s.resolved + s.failed ≤ s.total
  /-- … and the three numbers add up to the total. -/
  partition : s.resolved + s.unresolved + s.failed = s.total
  /-- The failures are the failed results in their order, with repetitions. -/
  failures : List.Forall₂ Failure.Tells (results.filter (·.outcome.fate = .failed)) s.failures
  results : s.results = results

/-- The numbers of a summary. -/
def counts (s : Summary) : List Nat := [s.total, s.resolved, s.unresolved, s.failed]

section Accounts

variable {results : List TaskResult} {s : Summary}

theorem accounts_ofResults (results : List TaskResult) : Accounts results (ofResults results) := by
  have parts := count_sum results
  have resolved : (ofResults results).resolved = count results .resolved := length_resolved results
  have failed : (ofResults results).failed = count results .failed := length_failures results
  have rest : (ofResults results).unresolved =
      results.length - (ofResults results).resolved - (ofResults results).failed := rfl
  have unresolved : (ofResults results).unresolved = count results .unresolved := by
    rw [rest, resolved, failed]
    omega
  have total : (ofResults results).total = results.length := rfl
  exact {
    total, resolved, unresolved, failed
    covered := by omega
    partition := by omega
    failures := forall₂_failures results
    results := rfl }

/-- The numbers are told by the results. -/
theorem Accounts.counts (h : Accounts results s) :
    s.counts = results.length ::
      [Fate.resolved, Fate.unresolved, Fate.failed].map (count results) := by
  rw [Summary.counts, h.total, h.resolved, h.unresolved, h.failed]
  rfl

end Accounts

/-- **Accounts.** A summary counts every result once, under its fate, and lists the failed ones. Its
numbers are the sums of those of any two parts, and the same for every order of the results. -/
theorem ofResults_accounts (results : List TaskResult) :
    Accounts results (ofResults results) ∧
    (∀ more, (ofResults (results ++ more)).counts =
      List.zipWith (· + ·) (ofResults results).counts (ofResults more).counts) ∧
    (∀ others, results.Perm others → (ofResults others).counts = (ofResults results).counts) := by
  refine ⟨accounts_ofResults results, fun more => ?_, fun others perm => ?_⟩
  · rw [(accounts_ofResults _).counts, (accounts_ofResults _).counts, (accounts_ofResults _).counts]
    simp only [count, List.countP_append, List.length_append, List.map_cons, List.map_nil,
      List.zipWith_cons_cons, List.zipWith_nil_left]
  · have same : count others = count results := funext fun _ => perm.symm.countP_eq _
    rw [(accounts_ofResults _).counts, (accounts_ofResults _).counts, same, perm.length_eq]

/-- Two tasks of one name fail with one error, between a resolved and an unresolved one. -/
def mixed : List TaskResult :=
  [⟨"a", some "box-a", .success true none, ⟨0, 0, 0⟩, ⟨0, 1, 0⟩, .ofNat 1⟩,
    .failed "b" (some .provisioning) "upload rejected" ⟨0, 0, 0⟩,
    ⟨"c", some "box-c", .success false (some .empty), ⟨0, 0, 0⟩, ⟨0, 1, 0⟩, .ofNat 1⟩,
    .failed "b" none "upload rejected" ⟨0, 0, 0⟩]

/-- The failures of a batch, and its numbers when the results come in the opposite order. -/
theorem ofResults_accounts_mixed :
    (ofResults mixed).counts = [4, 1, 1, 2] ∧
    (ofResults mixed).failures = [⟨"b", "upload rejected"⟩, ⟨"b", "upload rejected"⟩] ∧
    mixed.Perm mixed.reverse ∧ (ofResults mixed.reverse).counts = [4, 1, 1, 2] := by
  have numbers : (ofResults mixed).counts = [4, 1, 1, 2] := by decide
  have perm : mixed.Perm mixed.reverse := (List.reverse_perm mixed).symm
  refine ⟨numbers, by decide, perm, ?_⟩
  rw [(ofResults_accounts mixed).2.2 _ perm, numbers]

end Summary

end AgentTrial
