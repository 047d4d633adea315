import Mathlib.Data.List.Induction
import AgentTrial.Proofs.Container.Turns
import AgentTrial.Proofs.Since

/-!
# What the flags of a container tell

The two flags of a container, read as what has become of it since it was new.

* **Launches** — only a start runs the container, only a start and a stop remove one, and every
  other call leaves alone what they did (`Does.isQuiet`).
* **Step** — each call keeps what the flags tell (`Told.step`).
* **Run** — so the flags of a container tell, after any calls on it, whether there was a start since
  the last stop, and whether one succeeded; and one may be left over exactly while the first flag is
  set (`told_turns`).
-/

namespace AgentTrial.Container

/-! ## Launches -/

/-- Whether a launch asks the tool to run a container. -/
def IsRun (launch : Launch) : Prop := launch.args.head? = some "run"

/-- Whether a launch asks the tool to remove the container of a sandbox. -/
def IsRemoval (spec : Spec) (launch : Launch) : Prop := launch.args = ["rm", "-f", spec.id]

/-- Whether the container is up by what the tool was asked: the last run of it succeeded, and no
removal was asked for after it. -/
def IsUp (spec : Spec) : List Launch → Prop :=
  Since (fun launch => IsRun launch ∧ launch.ending.succeeds)
    (fun launch => ¬ IsRun launch ∧ ¬ IsRemoval spec launch)

/-- Whether a container may be left over: a run was asked for, and no removal after it. -/
def IsLeft (spec : Spec) : List Launch → Prop :=
  Since IsRun fun launch => ¬ IsRemoval spec launch

instance : DecidablePred IsRun := fun _ => inferInstanceAs (Decidable (_ = _))

instance (spec : Spec) : DecidablePred (IsRemoval spec) := fun _ =>
  inferInstanceAs (Decidable (_ = _))

instance (spec : Spec) : DecidablePred (IsUp spec) := fun _ =>
  inferInstanceAs (Decidable (Since ..))

theorem isRun_runArguments (spec : Spec) (ending : Tool.Ending) :
    IsRun ⟨spec.runArguments, ending⟩ := rfl

theorem isRemoval_removeArguments (spec : Spec) (ending : Tool.Ending) :
    IsRemoval spec ⟨spec.removeArguments, ending⟩ := rfl

theorem not_isRun_removeArguments (spec : Spec) (ending : Tool.Ending) :
    ¬ IsRun ⟨spec.removeArguments, ending⟩ := by
  simp [IsRun, Spec.removeArguments]

variable {spec : Spec} {environment : Option String → List (String × String)}

/-- What a command launches neither runs nor removes the container. -/
theorem Does.isQuiet {call : Call} {launches : List Launch}
    (does : Does spec environment call (launches.map (·.args))) :
    ∀ launch ∈ launches, ¬ IsRun launch ∧ ¬ IsRemoval spec launch := by
  have quiet : ∀ args ∈ launches.map (·.args),
      args.head? = some "exec" ∨ args.head? = some "cp" := by
    generalize launches.map (·.args) = all at does
    cases does <;> simp [Spec.execArguments, Spec.copyArguments]
  intro launch mem
  rw [IsRun, IsRemoval]
  obtain exec | copy := quiet launch.args (List.mem_map_of_mem mem)
  · exact ⟨by simp [exec], fun same => by simp [same] at exec⟩
  · exact ⟨by simp [copy], fun same => by simp [same] at copy⟩

/-! ## Calls -/

namespace Turn

/-- Whether a call was a start that succeeded. -/
def Starts (t : Turn) : Prop := t.call = .start ∧ t.ending.isValue

/-- Whether a call was a start that failed. -/
def FailsToStart (t : Turn) : Prop := t.call = .start ∧ ¬ t.ending.isValue

/-- Whether a call was no stop. -/
def IsNoStop (t : Turn) : Prop := t.call ≠ .stop

/-- Whether a call was neither a start nor a stop. -/
def IsCommand (t : Turn) : Prop := t.call.isCommand

/-- Whether a call was sent away because the container is not started. -/
def Refused (spec : Spec) (t : Turn) : Prop := t.ending = .error (.notStarted spec.id)

end Turn

/-- What the flags of a container tell of the calls on it, and the record of its tool with them. -/
structure Told (spec : Spec) (past : List Turn) (box : Container (List Launch)) : Prop where
  launches : box.tool = past.flatMap (·.launches)
  left : IsLeft spec box.tool ↔ box.attempted
  attempted : box.attempted ↔ Since (·.call = .start) Turn.IsNoStop past
  started : box.started ↔ Since Turn.Starts Turn.IsNoStop past
  up : IsUp spec box.tool ↔ Since Turn.Starts Turn.IsCommand past
  each : ∀ t ∈ past, ∃ environment attempted started attempted' started',
    Goes spec environment attempted started t attempted' started'

/-- What is up may be left over. -/
theorem IsUp.isLeft {launches : List Launch} (h : IsUp spec launches) : IsLeft spec launches :=
  h.imp (fun _ _ runs => runs.1) fun _ _ other => other.2

section Step

variable {attempted started attempted' started' : Bool} {t : Turn} {launches : List Launch}

/-- Whether a container may be left over after one more call. -/
theorem Goes.isLeft_append (h : Goes spec environment attempted started t attempted' started')
    (left : IsLeft spec launches ↔ attempted) :
    IsLeft spec (launches ++ t.launches) ↔ attempted' := by
  have runs := isRun_runArguments spec
  have runless := not_isRun_removeArguments spec
  have removes := isRemoval_removeArguments spec
  cases h with
  | start up =>
      rw [List.append_cons, IsLeft, Since.concat_iff]
      simp [runs]
  | startFails down =>
      rw [List.append_cons, IsLeft, Since.concat_iff]
      simp [runs]
  | stop told =>
      rw [IsLeft, Since.concat_iff]
      simp [runless, removes]
  | idle => simpa using left
  | refuse command => simpa using left
  | accept command taken does =>
      rw [← left, IsLeft, Since.append_iff]
      intro launch mem
      have quiet := does.isQuiet launch mem
      exact ⟨quiet.2, quiet.1⟩

/-- Whether the container is up after one more call, where only what may be left over can be up. -/
theorem Goes.isUp_append (h : Goes spec environment attempted started t attempted' started')
    (left : IsLeft spec launches ↔ attempted) :
    IsUp spec (launches ++ t.launches) ↔ t.Starts ∨ t.IsCommand ∧ IsUp spec launches := by
  have runs := isRun_runArguments spec
  have runless := not_isRun_removeArguments spec
  have removes := isRemoval_removeArguments spec
  cases h with
  | start up =>
      rw [List.append_cons, IsUp, Since.concat_iff]
      simp [runs, up, Turn.Starts, Ending.isValue]
  | startFails down =>
      rw [List.append_cons, IsUp, Since.concat_iff]
      simp [runs, down, Turn.Starts, Turn.IsCommand, Call.isCommand, Ending.isValue]
  | stop told =>
      rw [IsUp, Since.concat_iff]
      simp [runless, removes, Turn.Starts, Turn.IsCommand, Call.isCommand]
  | idle =>
      have down : ¬ IsUp spec launches := fun up => Bool.false_ne_true (left.mp up.isLeft)
      simp [down, Turn.Starts]
  | refuse command =>
      simp [Turn.Starts, Turn.IsCommand, command, (Call.isCommand_iff _).mp command]
  | accept command taken does =>
      rw [IsUp, Since.append_iff]
      · simp [Turn.Starts, Turn.IsCommand, command, (Call.isCommand_iff _).mp command]
      · intro launch mem
        have quiet := does.isQuiet launch mem
        exact ⟨quiet, fun runs => quiet.1 runs.1⟩

/-- What a call does to the flag that a container may be there. -/
theorem Goes.attempted_iff (h : Goes spec environment attempted started t attempted' started') :
    attempted' ↔ t.call = .start ∨ t.IsNoStop ∧ attempted := by
  cases h with
  | start up => simp
  | startFails down => simp
  | stop told => simp [Turn.IsNoStop]
  | idle => simp
  | refuse command => simp [Turn.IsNoStop, (Call.isCommand_iff _).mp command]
  | accept command taken does => simp [Turn.IsNoStop, (Call.isCommand_iff _).mp command]

/-- What a call does to the flag that a container takes commands: no start unsets it. -/
theorem Goes.started_iff (h : Goes spec environment attempted started t attempted' started') :
    started' ↔ t.Starts ∨ t.IsNoStop ∧ started := by
  cases h with
  | start up => simp [Turn.Starts, Ending.isValue]
  | startFails down => simp [Turn.Starts, Turn.IsNoStop, Ending.isValue]
  | stop told => simp [Turn.Starts, Turn.IsNoStop]
  | idle => simp [Turn.Starts, Turn.IsNoStop]
  | refuse command => simp [Turn.Starts, (Call.isCommand_iff _).mp command]
  | accept command taken does => simp [Turn.IsNoStop, (Call.isCommand_iff _).mp command]

end Step

/-- **Step.** A call keeps what the flags tell. -/
theorem Told.step {past : List Turn} {box box' : Container (List Launch)} {t : Turn}
    (h : Told spec past box) (grown : box'.tool = box.tool ++ t.launches)
    (goes : Goes spec environment box.attempted box.started t box'.attempted box'.started) :
    Told spec (past ++ [t]) box' where
  launches := by rw [grown, h.launches, List.flatMap_append, List.flatMap_singleton]
  left := by rw [grown, goes.isLeft_append h.left]
  attempted := by rw [Since.concat_iff, ← h.attempted, goes.attempted_iff]
  started := by rw [Since.concat_iff, ← h.started, goes.started_iff]
  up := by rw [grown, goes.isUp_append h.left, Since.concat_iff, h.up]
  each := by
    intro u mem
    rcases List.mem_append.mp mem with old | new
    · exact h.each u old
    · obtain rfl := List.mem_singleton.mp new
      exact ⟨_, _, _, _, _, goes⟩

/-- A container that is new: the tool was asked nothing. -/
def new : Container (List Launch) := { tool := [] }

theorem told_new (spec : Spec) : Told spec [] new where
  launches := rfl
  left := ⟨fun since => (Since.not_nil since).elim, nofun⟩
  attempted := ⟨nofun, fun since => (Since.not_nil since).elim⟩
  started := ⟨nofun, fun since => (Since.not_nil since).elim⟩
  up := ⟨fun since => (Since.not_nil since).elim, fun since => (Since.not_nil since).elim⟩
  each := nofun

/-- **Run.** After any calls on a container that was new, however the tool answered, its flags tell
what has become of it. -/
theorem told_turns (answers : Tool.Answers) (spec : Spec) (fs : FileSystem)
    (visits : List (Nat × Call)) :
    let r := turns answers spec fs new visits
    Told spec r.1 r.2 := by
  induction visits using List.reverseRecOn with
  | nil => exact told_new spec
  | append_singleton visits visit ih =>
      obtain ⟨now, call⟩ := visit
      let last := (turns answers spec fs new visits).2
      obtain ⟨-, grown, goes⟩ := turn_goes answers spec fs last now call
      rw [turns_concat]
      exact ih.step grown goes

end AgentTrial.Container
