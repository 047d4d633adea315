import AgentTrial.Proofs.Dict
import AgentTrial.Proofs.Json.Text
import AgentTrial.Proofs.Time.Text
import AgentTrial.Result.Record

/-!
# Reading results back

What is read from the JSON of a result is that result.

* **Outcomes** — an outcome is read back from its members, with tests that are absent, empty or many
  and with a stage or without (`Outcome.ofMembers_members`).
* **Results** — its members go through the fields of the result unread, since none of them has the
  name of such a field (`ofMembers_foreign`), and the fields are read for themselves
  (`ofReading_toJson`). So every result that a trial is given is read back (`ofReading_new`).
* **Texts** — the text of a result is read as that result, but for the digits of its duration
  (`ofJsonText_compact`).
* **Keys** — no key stands twice, and one of two keys says how the trial ended (`readBack_toJson`).
-/

namespace AgentTrial

open Json

/-! ## Outcomes -/

section Outcomes

theorem TestStatus.meaning_name (s : TestStatus) :
    Reading.meaning TestStatus.words s.name = .ok s := by
  cases s <;> rfl

theorem Stage.meaning_name (s : Stage) : Reading.meaning Stage.words s.name = .ok s := by
  cases s <;> rfl

/-- What is written item by item is taken back when each item is. -/
theorem mapM_map_ok {α β ε : Type} {take : β → Except ε α} {write : α → β}
    (taken : ∀ a, take (write a) = .ok a) (items : List α) :
    (items.map write).mapM take = .ok items := by
  induction items with
  | nil => rfl
  | cons item items ih =>
      rw [List.map_cons, List.mapM_cons, taken, ih]
      rfl

/-- Tests are read back from the object that lists them. -/
theorem dict_testsToJson (tests : Dict TestStatus) :
    Value.dict (Value.variant TestStatus.words) (testsToJson tests) = .ok tests := by
  rw [testsToJson, Value.dict, mapM_map_ok]
  · exact congrArg Except.ok tests.ofList_entries
  · rintro ⟨name, status⟩
    simp only [Value.variant, TestStatus.meaning_name]
    rfl

/-- An outcome is read back from its members. -/
theorem Outcome.ofMembers_members (o : Outcome) : Outcome.ofMembers o.members = .ok o := by
  cases o with
  | success resolved tests =>
      have status : Value.required (Outcome.success resolved tests).members "status" takeStatus =
          .ok true := by cases tests <;> rfl
      have verdict : Value.required (Outcome.success resolved tests).members "resolved"
          Value.asBool = .ok resolved := by cases tests <;> rfl
      have listed : Value.leftOut (Outcome.success resolved tests).members "tests"
          (Value.dict (Value.variant TestStatus.words)) = .ok tests := by
        cases tests with
        | none => rfl
        | some tests => exact congrArg (Except.map some) (dict_testsToJson tests)
      rw [Outcome.ofMembers, status]
      simp only [bind, Except.bind, verdict, listed, if_true]
      rfl
  | failed stage error =>
      have status : Value.required (Outcome.failed stage error).members "status" takeStatus =
          .ok false := by cases stage <;> rfl
      have found : Value.leftOut (Outcome.failed stage error).members "stage"
          (Value.variant Stage.words) = .ok stage := by
        cases stage with
        | none => rfl
        | some stage => exact congrArg (Except.map some) stage.meaning_name
      have text : Value.required (Outcome.failed stage error).members "error" Value.asText =
          .ok error := by cases stage <;> rfl
      rw [Outcome.ofMembers, status]
      simp only [bind, Except.bind, found, text]
      rfl

theorem testsToJson_depth (tests : Dict TestStatus) : (testsToJson tests).depth ≤ 1 := by
  refine Nat.succ_le_succ (membersDepth_le_iff.mpr fun m mem => ?_)
  obtain ⟨e, -, rfl⟩ := List.mem_map.mp mem
  exact Nat.le_refl 0

end Outcomes

/-! ## Results -/

namespace TaskResult

/-- The names of the fields of a result that do not come from its outcome. -/
def ownNames : List String :=
  ["task_name", "sandbox_id", "started_at", "completed_at", "duration_secs"]

def keys (r : TaskResult) : List String := r.members.map (·.1)

section Reading

variable {f g : Fields} {name : String} {v : Value}

theorem ofMembers_cons (taken : f.take name (.ofValue v) = .ok g) (ms : List (String × Value)) :
    ofMembers f (.ofMembers ((name, v) :: ms)) = ofMembers g (.ofMembers ms) := by
  simp only [Members.ofMembers, ofMembers, Quoted.ofString, bind, Except.bind, taken]

/-- A member that is not a field of its own is kept for the outcome. -/
theorem take_foreign (foreign : name ∉ ownNames) (shallow : v.depth ≤ maxDepth) :
    f.take name (.ofValue v) = .ok { f with others := f.others ++ [(name, v)] } := by
  simp only [ownNames, List.mem_cons, List.not_mem_nil, or_false, not_or] at foreign
  obtain ⟨task, sandbox, started, completed, duration⟩ := foreign
  have has : f.has name = false := by simp [Fields.has, *]
  simp [Fields.take, has, task, sandbox, started, completed, duration,
    Reading.value_ofValue v shallow, bind, Except.bind, pure, Except.pure]

theorem ofMembers_foreign {ms : List (String × Value)}
    (foreign : ∀ m ∈ ms, m.1 ∉ ownNames ∧ m.2.depth ≤ maxDepth) (rest : List (String × Value))
    (f : Fields) :
    ofMembers f (.ofMembers (ms ++ rest)) =
      ofMembers { f with others := f.others ++ ms } (.ofMembers rest) := by
  induction ms generalizing f with
  | nil => simp
  | cons m ms ih =>
      obtain ⟨⟨other, shallow⟩, foreign⟩ := List.forall_mem_cons.mp foreign
      rw [List.cons_append, ofMembers_cons (take_foreign other shallow), ih foreign]
      simp

end Reading

theorem foreign_outcome (o : Outcome) :
    ∀ m ∈ o.members, m.1 ∉ ownNames ∧ m.2.depth ≤ maxDepth := by
  cases o with
  | success resolved tests =>
      cases tests with
      | none => simp [Outcome.members, testsMember, ownNames, Value.depth]
      | some tests =>
          have shallow : (testsToJson tests).depth ≤ maxDepth :=
            (testsToJson_depth tests).trans (by decide)
          simp [Outcome.members, testsMember, ownNames, Value.depth, shallow]
  | failed stage error => cases stage <;> simp [Outcome.members, ownNames, Value.depth]

section Own

variable {f : Fields}

theorem take_sandboxId (unread : f.sandboxId = none) (s : Option String) :
    f.take "sandbox_id" (.ofValue (.ofOption .string s)) = .ok { f with sandboxId := some s } := by
  have has : f.has "sandbox_id" = false := by simp [Fields.has, unread]
  have read : Reading.optional Reading.asText (.ofValue (.ofOption .string s)) = .ok s := by
    cases s <;> rfl
  rw [Fields.take, has, read]
  rfl

theorem takeInstant_text {t : Instant} (legible : t.Legible) :
    takeInstant (.ofValue (.string t.text)) = .ok t := by
  have read : Instant.ofText? t.text = some t := legible
  simp only [takeInstant, Reading.ofValue, Reading.asText, Quoted.ofString, bind, Except.bind, read]
  rfl

theorem take_startedAt (unread : f.startedAt = none) {t : Instant} (legible : t.Legible) :
    f.take "started_at" (.ofValue (.string t.text)) = .ok { f with startedAt := some t } := by
  have has : f.has "started_at" = false := by simp [Fields.has, unread]
  rw [Fields.take, has, takeInstant_text legible]
  rfl

theorem take_completedAt (unread : f.completedAt = none) {t : Instant} (legible : t.Legible) :
    f.take "completed_at" (.ofValue (.string t.text)) = .ok { f with completedAt := some t } := by
  have has : f.has "completed_at" = false := by simp [Fields.has, unread]
  rw [Fields.take, has, takeInstant_text legible]
  rfl

theorem take_durationSecs (unread : f.durationSecs = none) (x : Binary64) :
    f.take "duration_secs" (.ofValue (.real x)) = .ok { f with durationSecs := some x } := by
  have has : f.has "duration_secs" = false := by simp [Fields.has, unread]
  rw [Fields.take, has]
  rfl

end Own

/-- A result is read back from its JSON value. -/
theorem ofReading_toJson {r : TaskResult} (started : r.startedAt.Legible)
    (completed : r.completedAt.Legible) : ofReading (.ofValue r.toJson) = .ok r := by
  rw [toJson, Reading.ofValue, ofReading, members, List.append_assoc]
  simp only [List.cons_append, List.nil_append]
  rw [ofMembers_cons (g := { taskName := some r.taskName }) rfl,
    ofMembers_cons (take_sandboxId rfl _), ofMembers_foreign (foreign_outcome r.outcome),
    ofMembers_cons (take_startedAt rfl started), ofMembers_cons (take_completedAt rfl completed),
    ofMembers_cons (take_durationSecs rfl _)]
  simp only [Members.ofMembers, ofMembers, Fields.toResult, List.nil_append,
    Outcome.ofMembers_members]
  rfl

/-- Every result that a finding is given is read back from its JSON value. -/
theorem ofReading_new {f : Finding} {t : Instant} {d : Duration} {r : TaskResult}
    (valid : t.IsValid) (made : new f t d = .ok r) : ofReading (.ofValue r.toJson) = .ok r := by
  unfold new at made
  split at made
  · rename_i later sum
    cases made
    exact ofReading_toJson (Instant.legible_iff.mpr valid)
      (Instant.legible_iff.mpr (Instant.isValid_add valid sum))
  · cases made

/-! ## Texts -/

theorem readsAs_outcome (o : Outcome) : ∀ m ∈ o.members, m.2.ReadsAs m.2 := by
  have status (s : String) : (Value.string s).ReadsAs (.string s) := .string s
  cases o with
  | success resolved tests =>
      have verdict : (Value.bool resolved).ReadsAs (.bool resolved) := .bool resolved
      cases tests with
      | none => simp [Outcome.members, testsMember, status, verdict]
      | some tests =>
          have listed : (testsToJson tests).ReadsAs (testsToJson tests) := by
            refine .same fun m mem => ?_
            obtain ⟨e, -, rfl⟩ := List.mem_map.mp mem
            exact status _
          simp [Outcome.members, testsMember, status, verdict, listed]
  | failed stage error => cases stage <;> simp [Outcome.members, status]

/-- The text of a result reads as that of the result with its duration as it is read. -/
theorem readsAs_toJson {r : TaskResult} {seconds : Binary64}
    (reads : (Number.real r.durationSecs).ReadsAs (.real seconds)) :
    r.toJson.ReadsAs ({ r with durationSecs := seconds } : TaskResult).toJson := by
  have name : (Value.ofOption .string r.sandboxId).ReadsAs (.ofOption .string r.sandboxId) := by
    cases r.sandboxId with
    | none => exact .null
    | some s => exact .string s
  have times : MembersReadAs
      [("started_at", .string r.startedAt.text), ("completed_at", .string r.completedAt.text),
        ("duration_secs", .real r.durationSecs)]
      [("started_at", .string r.startedAt.text), ("completed_at", .string r.completedAt.text),
        ("duration_secs", .real seconds)] :=
    .cons _ (.string _) (.cons _ (.string _) (.cons _ (.number reads) .nil))
  have after := MembersReadAs.same_append (readsAs_outcome r.outcome) times
  rw [toJson, toJson, members, members, List.append_assoc, List.append_assoc]
  exact .object (.cons _ (.string _) (.cons _ name after))

theorem ofJsonText_compact {r : TaskResult} {seconds : Binary64}
    (started : r.startedAt.Legible) (completed : r.completedAt.Legible)
    (reads : (Number.real r.durationSecs).ReadsAs (.real seconds)) :
    ofJsonText r.toJson.compact = .ok { r with durationSecs := seconds } := by
  have whole := ofReading_toJson (r := { r with durationSecs := seconds }) started completed
  rw [ofJsonText, Document.ofText_compact (readsAs_toJson reads), Document.take, whole]
  rfl

/-! ## Keys -/

theorem keys_nodup (r : TaskResult) : r.keys.Nodup := by
  unfold keys members
  cases r.outcome with
  | success resolved tests => cases tests <;> simp [Outcome.members, testsMember]
  | failed stage error => cases stage <;> simp [Outcome.members]

theorem keys_withSeconds (r : TaskResult) (seconds : Binary64) :
    ({ r with durationSecs := seconds } : TaskResult).keys = r.keys := by
  simp [keys, members]

/-- A result says under one key how the trial ended, and its status says under which. -/
def Tagged (r : TaskResult) : Prop :=
  match r.outcome with
  | .success resolved _ =>
    r.toJson.member? "status" = some (.string "success") ∧
      r.toJson.member? "resolved" = some (.bool resolved) ∧ r.toJson.member? "error" = none
  | .failed _ error =>
    r.toJson.member? "status" = some (.string "failed") ∧
      r.toJson.member? "error" = some (.string error) ∧ r.toJson.member? "resolved" = none

theorem tagged (r : TaskResult) : r.Tagged := by
  unfold Tagged
  cases ended : r.outcome with
  | success resolved tests =>
      cases tests <;> simp [Value.member?, toJson, members, ended, Outcome.members, testsMember]
  | failed stage error =>
      cases stage <;> simp [Value.member?, toJson, members, ended, Outcome.members]

/-- **Round trip.** No key of a result stands twice, and it says under one key how the trial ended.
With instants that are read back from their texts, its value is read as the result itself, and its
text as the result with its duration as the digits of the duration are read; that result has the
same keys in the same order. -/
theorem readBack_toJson (r : TaskResult) :
    r.keys.Nodup ∧ r.Tagged ∧
    (r.startedAt.Legible → r.completedAt.Legible →
      ofReading (.ofValue r.toJson) = .ok r ∧
      ∀ seconds : Binary64, (Number.real r.durationSecs).ReadsAs (.real seconds) →
        ofJsonText r.toJson.compact = .ok { r with durationSecs := seconds } ∧
        ({ r with durationSecs := seconds } : TaskResult).keys = r.keys) := by
  refine ⟨r.keys_nodup, r.tagged, fun started completed => ?_⟩
  refine ⟨ofReading_toJson started completed, fun seconds reads => ?_⟩
  exact ⟨ofJsonText_compact started completed reads, r.keys_withSeconds seconds⟩

/-- A result with tests, at two instants of a second and a half apart. -/
def tested : TaskResult where
  taskName := "sum"
  sandboxId := some "box"
  outcome := .success false (some (.ofList [("parses", .passed), ("adds", .failed)]))
  startedAt := ⟨19723, 3600, 0⟩
  completedAt := ⟨19723, 3601, 500000000⟩
  durationSecs := (⟨1500000000⟩ : Duration).toSeconds

theorem readBack_toJson_tested :
    tested.startedAt.Legible ∧ tested.completedAt.Legible ∧
    (Number.real tested.durationSecs).ReadsAs (.real tested.durationSecs) ∧
    ofReading (.ofValue tested.toJson) = .ok tested ∧
    ofJsonText tested.toJson.compact = .ok tested := by
  have started : tested.startedAt.Legible := by decide +kernel
  have completed : tested.completedAt.Legible := by decide +kernel
  have seconds : (Number.real tested.durationSecs).ReadsAs (.real tested.durationSecs) := rfl
  obtain ⟨value, text⟩ := (readBack_toJson tested).2.2 started completed
  exact ⟨started, completed, seconds, value, (text _ seconds).1⟩

end TaskResult

end AgentTrial
