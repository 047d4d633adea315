import AgentTrial.Proofs.Container.Flags
import AgentTrial.Proofs.Container.Names

/-!
# Removing what was run

A container may be there after every run that was asked for, even one that failed, so a stop removes
it whenever a run was asked for since the last stop.

* **Runs** — only a start runs the container, right after a removal (`Goes.runs`).
* **Names** — all that the tool is launched with names the sandbox's own container, and no other but
  the one that the local path of a copy is taken to be in (`Goes.named`).
* **Removals** — a stop asks for one removal if there was a run since the last stop and for nothing
  otherwise, so after a stop every run has been followed by a removal (`removals_accounted`). Local
  paths are not told from paths in containers (`upload_names_other`).
-/

namespace AgentTrial.Container

variable {spec : Spec} {environment : Option String → List (String × String)}

/-! ## Runs -/

/-- A start asks for a removal and then for a run, and no other call asks for a run. -/
theorem Goes.runs {attempted started attempted' started' : Bool} {t : Turn}
    (h : Goes spec environment attempted started t attempted' started') :
    if t.call = .start then
      t.launches.map (·.args) = [spec.removeArguments, spec.runArguments]
    else ∀ launch ∈ t.launches, ¬ IsRun launch := by
  cases h with
  | start up => rfl
  | startFails down => rfl
  | stop told => simp [not_isRun_removeArguments]
  | idle => simp
  | refuse command => simp [(Call.isCommand_iff _).mp command]
  | accept command taken does =>
      rw [if_neg ((Call.isCommand_iff _).mp command).1]
      exact fun launch mem => (does.isQuiet launch mem).1

/-- The calls that ask for a run are the starts. -/
theorem Goes.isRun_iff {attempted started attempted' started' : Bool} {t : Turn}
    (h : Goes spec environment attempted started t attempted' started') :
    (∃ launch ∈ t.launches, IsRun launch) ↔ t.call = .start := by
  have runs := h.runs
  split at runs
  · rename_i start
    have mem : spec.runArguments ∈ t.launches.map (·.args) := by simp [runs]
    obtain ⟨launch, here, same⟩ := List.mem_map.mp mem
    exact iff_of_true ⟨launch, here, congrArg List.head? same⟩ start
  · rename_i other
    exact iff_of_false (fun ⟨launch, mem, isRun⟩ => runs launch mem isRun) other

/-! ## Names -/

/-- Which containers a launch for a call names: the sandbox's own, and in a copy the one that the
local path is taken to be in. -/
def NamesOwn (spec : Spec) (call : Call) (args : List String) : Prop :=
  named args = [spec.id] ∨ ∃ path remote, call.localPath? = some path ∧
    args = spec.copyArguments path remote ∧
    named args = (containerOf? path).toList ++ [spec.id]

theorem Goes.namesOwn (own : IsOwn spec.id) {attempted started attempted' started' : Bool}
    {t : Turn} (h : Goes spec environment attempted started t attempted' started') :
    ∀ launch ∈ t.launches, NamesOwn spec t.call launch.args := by
  have run : named spec.runArguments = [spec.id] := run_named
  have remove : named spec.removeArguments = [spec.id] := remove_named own
  cases h with
  | start up => simp [NamesOwn, run, remove]
  | startFails down => simp [NamesOwn, run, remove]
  | stop told => simp [NamesOwn, remove]
  | idle => simp
  | refuse command => simp
  | accept command taken does =>
      intro launch mem
      exact does.named own launch.args (List.mem_map_of_mem mem)

/-! ## Removals -/

/-- A stop removes what may be there, and succeeds where nothing may. -/
theorem Goes.stops {attempted started attempted' started' : Bool} {t : Turn}
    (h : Goes spec environment attempted started t attempted' started') (stop : t.call = .stop) :
    attempted' = false ∧ (attempted → t.launches.map (·.args) = [spec.removeArguments]) ∧
      (¬ attempted → t.launches = [] ∧ t.ending.isValue) := by
  cases h with
  | start up => cases stop
  | startFails down => cases stop
  | stop told => simp
  | idle => simp [Ending.isValue]
  | refuse command => exact absurd stop ((Call.isCommand_iff _).mp command).2
  | accept command taken does => exact absurd stop ((Call.isCommand_iff _).mp command).2

/-- **Removals.** After any calls on the container of a task, however the tool answers:

* a stop asks for the removal of the container and for nothing else if a run was asked for since the
  last stop, whatever became of it, and otherwise it asks for nothing and succeeds;
* after the stop every run that was ever asked for has been followed by a removal;
* every start has asked for a removal and right after it for a run, and only starts ask for runs;
* all that the tool was launched with names the container of the sandbox and no other, except a copy
  whose local path the tool takes for one in another container, which names that one too. -/
theorem removals_accounted (answers : Tool.Answers) (settings : SandboxSettings)
    (image taskName : String) {suffix : String} (plain : ':' ∉ suffix.toList) (fs : FileSystem)
    (visits : List (Nat × Call)) (now : Nat) :
    let spec : Spec := ⟨idOf taskName suffix, image, settings⟩
    let past := turns answers spec fs new visits
    let stop := (turn answers spec fs past.2 now .stop).1
    let hasRun := Since (fun t => ∃ launch ∈ t.launches, IsRun launch) Turn.IsNoStop past.1
    (hasRun → stop.launches.map (·.args) = [["rm", "-f", spec.id]]) ∧
      (¬ hasRun → stop.launches = [] ∧ stop.ending.isValue) ∧
      (∀ before run after, (past.1 ++ [stop]).flatMap (·.launches) = before ++ run :: after →
        IsRun run → ∃ removal ∈ after, IsRemoval spec removal) ∧
      (∀ t ∈ past.1 ++ [stop],
        if t.call = .start then
          t.launches.map (·.args) = [["rm", "-f", spec.id], spec.runArguments]
        else ∀ launch ∈ t.launches, ¬ IsRun launch) ∧
      ∀ t ∈ past.1 ++ [stop], ∀ launch ∈ t.launches,
        named launch.args = [spec.id] ∨ ∃ path remote, t.call.localPath? = some path ∧
          launch.args = ["cp", path, spec.id ++ ":" ++ remote] ∧
          named launch.args = (containerOf? path).toList ++ [spec.id] := by
  intro spec past stop hasRun
  have told : Told spec past.1 past.2 := told_turns answers spec fs visits
  obtain ⟨-, grown, goes⟩ := turn_goes answers spec fs past.2 now .stop
  have after := told.step grown goes
  obtain ⟨unset, removes, idles⟩ := goes.stops rfl
  have attempted : hasRun ↔ past.2.attempted := by
    rw [told.attempted]
    refine Since.congr (fun t mem => ?_) fun t _ => Iff.rfl
    obtain ⟨environment, _, _, _, _, each⟩ := told.each t mem
    exact each.isRun_iff
  have nothing : ¬ hasRun → stop.launches = [] ∧ stop.ending.isValue := by
    intro none
    exact idles fun set => none (attempted.mpr set)
  refine ⟨fun run => removes (attempted.mp run), nothing, ?_, fun t mem => ?_, fun t mem => ?_⟩
  · intro before run rest split isRun
    -- a run without a removal after it would be left over, and the flag would be set
    by_contra missing
    have left : IsLeft spec ((past.1 ++ [stop]).flatMap (·.launches)) :=
      ⟨before, run, rest, split, isRun, fun launch mem removal => missing ⟨launch, mem, removal⟩⟩
    have set := after.left.mp (after.launches ▸ left)
    exact Bool.false_ne_true (unset.symm.trans set)
  · obtain ⟨environment, _, _, _, _, each⟩ := after.each t mem
    exact each.runs
  · obtain ⟨environment, _, _, _, _, each⟩ := after.each t mem
    exact each.namesOwn (isOwn_idOf taskName plain)

/-- A container whose start was never answered is removed by the stop. -/
theorem removals_accounted_unanswered :
    ':' ∉ "c0ffee42".toList ∧
      let answers : Tool.Answers := fun _ _ => .hanging
      let spec : Spec := ⟨idOf "t" "c0ffee42", "img", {}⟩
      let started := turns answers spec nowhere new [(0, .start)]
      (turn answers spec nowhere started.2 0 .stop).1.launches.map (·.args) =
        [["rm", "-f", spec.id]] :=
  have plain : ':' ∉ "c0ffee42".toList := by decide
  ⟨plain, (removals_accounted (fun _ _ => .hanging) {} "img" "t" plain nowhere
    [(0, .start)] 0).1 ⟨[], _, [], rfl, ⟨_, .tail _ (.head _), rfl⟩, nofun⟩⟩

/-- A file in a directory with a colon in its name, which is uploaded to a container that is up. The
tool is asked to copy it from another container. -/
theorem upload_names_other :
    let fs : FileSystem :=
      { root := .dir (.cons "other:tasks" (.dir (.cons "run.sh" (.ofText "x") .nil)) .nil)
        workingDir := [] }
    let answers : Tool.Answers := fun _ _ => .finished {}
    let spec : Spec := ⟨idOf "t" "c0ffee42", "img", {}⟩
    let started := turns answers spec fs new [(0, .start)]
    let upload := (turn answers spec fs started.2 0
      (.uploadFile (.file "other:tasks/run.sh") "/tests/run.sh")).1
    upload.launches.map (·.args) =
        [["cp", "other:tasks/run.sh", "swe-eval-t-c0ffee42:/tests/run.sh"]] ∧
      upload.launches.map (named ·.args) = [["other", "swe-eval-t-c0ffee42"]] ∧
      spec.id = "swe-eval-t-c0ffee42" := by
  intro fs answers spec started upload
  exact ⟨by decide +kernel, by decide +kernel, by decide +kernel⟩

end AgentTrial.Container
