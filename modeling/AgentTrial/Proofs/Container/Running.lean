import AgentTrial.Proofs.Container.Flags

/-!
# Commands and the container they are for

A command is taken by the flag that a start sets and a stop unsets; whether the container is up is
told by what the tool was last asked (`IsUp`).

* **Refusals** — a command is refused exactly when no start has succeeded since the last stop, and
  then nothing is launched for it (`command_refused_iff`).
* **Up** — so no command is refused that a container could take, and every command that finds none is
  refused, unless a container that was started was started again in vain: the second start has
  removed it, and the flag stays (`taken_while_down`).
-/

namespace AgentTrial.Container

variable {answers : Tool.Answers} {spec : Spec} {fs : FileSystem}

/-- Whether a start has succeeded since the last stop, and the last start has failed. -/
def RestartedInVain (past : List Turn) : Prop :=
  Since Turn.Starts Turn.IsNoStop past ∧ Since Turn.FailsToStart Turn.IsCommand past

/-- A container that was started with nothing but commands since has not been stopped since. -/
theorem Turn.since_start {past : List Turn} (h : Since Starts IsCommand past) :
    Since Starts IsNoStop past := by
  refine h.imp (fun _ _ starts => starts) fun t _ command => ?_
  exact (t.call.isCommand_iff.mp command).2

/-- Where a start has succeeded since the last stop, the last start has, or it was in vain. -/
theorem Turn.starts_cases {past : List Turn} (h : Since Starts IsNoStop past) :
    Since Starts IsCommand past ↔ ¬ Since FailsToStart IsCommand past := by
  induction past using List.reverseRecOn with
  | nil => exact (Since.not_nil h).elim
  | append_singleton past t ih =>
      rw [Since.concat_iff] at h ⊢
      rw [Since.concat_iff]
      by_cases start : t.call = .start
      · -- the last call is a start, which succeeded or not
        have last : ¬ t.IsCommand := fun command => (t.call.isCommand_iff.mp command).1 start
        simp [Starts, FailsToStart, start, last]
      · -- the last call is none, and no stop either
        have others : ¬ t.Starts ∧ ¬ t.FailsToStart := ⟨fun h => start h.1, fun h => start h.1⟩
        obtain ⟨noStop, earlier⟩ := h.resolve_left others.1
        have command : t.IsCommand := t.call.isCommand_iff.mpr ⟨start, noStop⟩
        simp [others, command, ih earlier]

/-- A command is refused by the flag. -/
theorem Goes.refused_iff {environment : Option String → List (String × String)}
    {attempted started attempted' started' : Bool} {t : Turn}
    (h : Goes spec environment attempted started t attempted' started') (command : t.IsCommand) :
    (t.Refused spec ↔ ¬ started) ∧ (t.Refused spec → t.launches = []) ∧
      (¬ t.Refused spec → Does spec environment t.call (t.launches.map (·.args))) := by
  cases h with
  | start up => cases command
  | startFails down => cases command
  | stop told => cases command
  | idle => cases command
  | refuse => simp [Turn.Refused]
  | accept _ taken does =>
      exact ⟨iff_of_false taken (by simp), fun refused => absurd refused taken, fun _ => does⟩

/-- **Refusals.** After any calls on a container that was new, however the tool answered:

* a command is refused exactly when no start has succeeded since the last stop;
* nothing is launched for a command that is refused, and for one that is taken what it asks for;
* no command is refused while the container is up;
* and the commands that are taken are those that find the container up, unless it was started again
  in vain. -/
theorem command_refused_iff (answers : Tool.Answers) (spec : Spec) (fs : FileSystem)
    (visits : List (Nat × Call)) (now : Nat) {call : Call} (command : call.isCommand) :
    let past := turns answers spec fs new visits
    let next := (turn answers spec fs past.2 now call).1
    let up := IsUp spec (past.1.flatMap (·.launches))
    (next.Refused spec ↔ ¬ Since Turn.Starts Turn.IsNoStop past.1) ∧
      (next.Refused spec → next.launches = []) ∧
      (¬ next.Refused spec → Does spec past.2.environment call (next.launches.map (·.args))) ∧
      (up → ¬ next.Refused spec) ∧
      ((¬ next.Refused spec ↔ up) ↔ ¬ RestartedInVain past.1) := by
  intro past next up
  have told : Told spec past.1 past.2 := told_turns answers spec fs visits
  obtain ⟨-, -, goes⟩ := turn_goes answers spec fs past.2 now call
  obtain ⟨refused, idle, does⟩ := goes.refused_iff command
  have taken : ¬ next.Refused spec ↔ Since Turn.Starts Turn.IsNoStop past.1 := by
    rw [refused, not_not, told.started]
  have upIff : up ↔ Since Turn.Starts Turn.IsCommand past.1 := by
    rw [← told.up, told.launches]
  refine ⟨(not_iff_comm.mp taken).symm, idle, does, fun isUp => ?_, ?_⟩
  · exact taken.mpr (Turn.since_start (upIff.mp isUp))
  · rw [taken, upIff, RestartedInVain]
    constructor
    · rintro same ⟨started, inVain⟩
      exact (Turn.starts_cases started).mp (same.mp started) inVain
    · intro notInVain
      constructor
      · intro started
        refine (Turn.starts_cases started).mpr fun inVain => ?_
        exact notInVain ⟨started, inVain⟩
      · exact Turn.since_start

/-! ## A second start that fails -/

/-- Answers with which every run of a container but the first fails. -/
def secondRunFails : Tool.Answers := fun past args =>
  if args.head? = some "run" ∧ past.any (·.args.head? = some "run") then
    .finished { exitCode := 125 }
  else .finished {}

/-- The container of a task. -/
def sample : Spec := ⟨idOf "t" "c0ffee42", "img", {}⟩

/-- A container that is started, and started again in vain. -/
def startedTwice : List Turn × Container (List Launch) :=
  turns secondRunFails sample nowhere new [(0, .start), (0, .start)]

theorem startedTwice_down : ¬ IsUp sample (startedTwice.1.flatMap (·.launches)) := by
  decide +kernel

theorem command_refused_iff_restarted :
    (Call.probe "true" "s").isCommand ∧ RestartedInVain startedTwice.1 := by
  refine ⟨rfl, Classical.not_not.mp fun notInVain => ?_⟩
  obtain ⟨-, -, -, -, same⟩ := command_refused_iff secondRunFails sample nowhere
    [(0, .start), (0, .start)] 0 (rfl : (Call.probe "true" "s").isCommand)
  exact startedTwice_down ((same.mpr notInVain).mp nofun)

/-- A command is taken although the container has been removed and was not run again: of two starts
the second removes the container of the first, fails to run one, and leaves the flag set. -/
theorem taken_while_down :
    ¬ IsUp sample (startedTwice.1.flatMap (·.launches)) ∧
      let probed := (turn secondRunFails sample nowhere startedTwice.2 0 (.probe "true" "s")).1
      probed.ending = .value (0 : Int) ∧
        probed.launches.map (·.args) = [sample.execArguments [] "true"] :=
  ⟨startedTwice_down, rfl, rfl⟩

end AgentTrial.Container
