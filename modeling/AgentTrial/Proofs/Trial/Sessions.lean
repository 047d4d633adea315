import AgentTrial.Proofs.Container.Sessions
import AgentTrial.Proofs.Trial.Attribution

/-!
# The sessions of a trial

A trial in a container, seen from what the container tool is launched with.

* **Container** — what a routine does with a container is the calls of its conversation, one after
  the other (`turns_talk`, `forall₂_turns`).
* **Commands** — every command of a trial is one of the agent's, in the agent's session, or one of
  the task's, in the session of the task (`inside_commands`); and none is run before its session is
  created (`inside_opened`).
* **Separation** — so the agent's commands are executed with the agent's environment and the task's
  with that of the settings, each with its own and no other (`session_environments`).
-/

namespace AgentTrial

open Routine Container

/-! ## Routines with a container -/

namespace Container

variable {answers : Tool.Answers} {spec : Spec} {fs : FileSystem}

/-- The calls of a conversation with their instants. -/
def visits (said : List Exchange) : List (Nat × Call) := said.map fun x => (x.began, x.call)

/-- What a routine leaves of a container is what the calls of its conversation leave. -/
theorem turns_talk {ε α : Type} (r : Routine ε α) (c : Course (Container (List Launch))) :
    (turns answers spec fs c.box
      (visits (r.talk (backend (Tool.answering answers) spec fs) c))).2 =
      (r.perform (backend (Tool.answering answers) spec fs) c).2.box := by
  let container := backend (Tool.answering answers) spec fs
  induction r generalizing c with
  | ended => rfl
  | call asked next ih => exact ih (container.call asked c).1 (container.call asked c).2
  | callWithin limit asked next ih =>
      let d := (container.callWithin limit asked c).2
      have later := ih (d.now - c.now) (container.callWithin limit asked c).1 d
      rw [callWithin_box] at later
      exact later
  | sleep millis next ih => exact ih { c with now := c.now + millis }
  | note event next ih => exact ih { c with log := c.log.push event }
  | deadline clock secs next ih => exact ih _ c
  | release next ih => exact ih c

theorem turns_calls (box : Container (List Launch)) (said : List Exchange) :
    (turns answers spec fs box (visits said)).1.map (·.call) = said.map (·.call) := by
  induction said generalizing box with
  | nil => rfl
  | cons x rest ih => exact congrArg (x.call :: ·) (ih _)

/-- A call whose caller hears a value ends with one. -/
theorem exists_turn_of_answered {box : Container (List Launch)} {said : List Exchange}
    (h : AgentTrial.Answered (backend (Tool.answering answers) spec fs) box said) {x : Exchange}
    (mem : x ∈ said) (answered : x.isAnswered) :
    ∃ t ∈ (turns answers spec fs box (visits said)).1, t.call = x.call ∧ t.ending.isValue := by
  induction h with
  | silent => exact absurd mem List.not_mem_nil
  | heard hears later ih =>
      rcases List.mem_cons.mp mem with rfl | mem
      · exact ⟨_, List.mem_cons_self, rfl, hears.isValue answered⟩
      · obtain ⟨t, recorded, is⟩ := ih mem
        exact ⟨t, List.mem_cons_of_mem _ recorded, is⟩

/-- Each call of a conversation goes as it does after those before it. -/
theorem exists_turn {box : Container (List Launch)} {said : List Exchange} {t : Turn}
    (mem : t ∈ (turns answers spec fs box (visits said)).1) :
    ∃ before x after, said = before ++ x :: after ∧
      t = (turn answers spec fs (turns answers spec fs box (visits before)).2 x.began x.call).1 := by
  induction said generalizing box with
  | nil => exact absurd mem List.not_mem_nil
  | cons x rest ih =>
      rcases List.mem_cons.mp mem with rfl | mem
      · exact ⟨[], x, rest, rfl, rfl⟩
      · obtain ⟨before, y, after, rfl, same⟩ := ih mem
        exact ⟨x :: before, y, after, rfl, same⟩

end Container

/-! ## Commands -/

namespace Trial

section Commands

variable (trial : Trial) (taskName : String) (task : Task)

/-- The commands of the agent. -/
inductive AgentCommand : Call → Prop where
  | install {command} (listed : command ∈ trial.agent.installCommands) :
      AgentCommand (.run command (some Agent.sessionName) .nohup trial.agent.installTimeout)
  | run : AgentCommand (.run (trial.agent.command (trial.agent.prompt task.instruction))
      (some Agent.sessionName) .nohup trial.agent.runTimeout)

/-- The commands of the task: its setup, the unpacking of its assets, and its tests, with the probes
of their process and the collection of their output. -/
inductive TaskCommand : Call → Prop where
  | setup {command} (listed : command ∈ trial.config.setupCommands) :
      TaskCommand (.run command (some (sessionName taskName)) .nohup trial.config.setupTimeout)
  | makeDir : TaskCommand (.run (Provision.makeDirCommand trial.config.remoteTestDir)
      (some (sessionName taskName)) .normal Provision.stepLimit)
  | extract : TaskCommand (.run (Provision.extractCommand trial.config.remoteTestDir)
      (some (sessionName taskName)) .normal Provision.stepLimit)
  | test {script} (named : Path.fileName? task.scriptPath = some script) :
      TaskCommand (trial.executor.launchCall (trial.testCommand script) (sessionName taskName)
        (trial.testOutput (sessionName taskName)))
  | probe {pid} : TaskCommand (.probe (Execution.probeCommand pid) (sessionName taskName))
  | collect : TaskCommand (trial.executor.collectCall (sessionName taskName)
      (trial.testOutput (sessionName taskName)))

/-- The calls of a trial. -/
inductive Makes : Call → Prop where
  | start : Makes .start
  | stop : Makes .stop
  | openAgent : Makes (.session Agent.sessionName trial.agent.env.entries)
  | openTask : Makes (.session (sessionName taskName) trial.config.sessionEnv.entries)
  | agent {call} (command : trial.AgentCommand task call) : Makes call
  | task {call} (command : trial.TaskCommand taskName task call) : Makes call
  | uploadFile {upload remote} : Makes (.uploadFile upload remote)
  | uploadDir {dir remote} : Makes (.uploadDir dir remote)

/-- No task has the agent's session. -/
theorem sessionName_ne_agent : sessionName taskName ≠ Agent.sessionName := by
  intro same
  have first := congrArg (·.toList.head?) same
  rw [sessionName, String.toList_append] at first
  exact absurd first (by simp [Agent.sessionName])

variable {trial taskName task}

theorem AgentCommand.executes {call : Call} (h : trial.AgentCommand task call) :
    ∃ mode command, Container.executes? call = some (some Agent.sessionName, mode, command) := by
  cases h <;> exact ⟨_, _, rfl⟩

theorem TaskCommand.executes {call : Call} (h : trial.TaskCommand taskName task call) :
    ∃ mode command,
      Container.executes? call = some (some (sessionName taskName), mode, command) := by
  cases h <;> exact ⟨_, _, rfl⟩

/-- A trial creates its two sessions with one environment each. -/
theorem Makes.session {name : String} {env : List (String × String)}
    (h : trial.Makes taskName task (.session name env)) :
    (name, env) = (Agent.sessionName, trial.agent.env.entries) ∨
      (name, env) = (sessionName taskName, trial.config.sessionEnv.entries) := by
  cases h with
  | openAgent => exact .inl rfl
  | openTask => exact .inr rfl
  | agent command => cases command
  | task command => cases command

/-- What a trial executes is a command of the agent or of the task. -/
theorem Makes.command {call : Call} {executed : Option String × RunMode × String}
    (h : trial.Makes taskName task call) (executes : Container.executes? call = some executed) :
    trial.AgentCommand task call ∨ trial.TaskCommand taskName task call := by
  cases h with
  | agent command => exact .inl command
  | task command => exact .inr command
  | start | stop | openAgent | openTask | uploadFile | uploadDir => cases executes

end Commands

/-! ## Parts of a conversation -/

section Parts

variable (trial : Trial) (takesDirs : Bool) (taskName : String) (task : Task)

/-- The milestones up to the one at which the agent's session is created … -/
def agentOpening : List Milestone :=
  [.call .environmentStarting .start fun _ => true] ++
    [.call .agentInstalling (.session Agent.sessionName trial.agent.env.entries) fun _ => true]

/-- … and up to the one at which the session of the task is. -/
def taskOpening : List Milestone :=
  (.call .environmentStarting .start (fun _ => true) ::
    (Agent.milestones trial.agent ++
      [.call .agentRunning (.run (trial.agent.command (trial.agent.prompt task.instruction))
        (some Agent.sessionName) .nohup trial.agent.runTimeout) fun _ => true])) ++
    [.call .provisioning (.session (sessionName taskName) trial.config.sessionEnv.entries)
      fun _ => true]

theorem agentOpening_prefix : trial.agentOpening <+: trial.milestones takesDirs taskName task :=
  ⟨_, rfl⟩

theorem taskOpening_prefix :
    trial.taskOpening taskName task <+: trial.milestones takesDirs taskName task := by
  simp only [taskOpening, milestones, List.cons_append, List.append_assoc, List.nil_append]
  refine List.prefix_cons_inj _ |>.mpr ((List.prefix_append_right_inj _).mpr ?_)
  exact ⟨_, rfl⟩

/-- Up to the tests a trial makes no call but its own. -/
theorem milestones_make : ∀ m ∈ trial.milestones takesDirs taskName task, ∀ asked ∈ m.calls,
    trial.Makes taskName task asked := by
  have uploads (packs : Bool) (packed : Provision.Archive) : ∀ m ∈ Provision.uploadMilestones
      (Provision.effective trial.config.uploadStrategy takesDirs) (sessionName taskName)
      task.testsPath packs packed trial.config.remoteTestDir task.scriptPath,
      ∀ asked ∈ m.calls, trial.Makes taskName task asked := by
    cases Provision.effective trial.config.uploadStrategy takesDirs with
    | directory =>
        simp only [Provision.uploadMilestones, Provision.scriptMilestones, List.forall_mem_cons,
          Milestone.calls]
        simp [Makes.uploadDir, Makes.uploadFile]
    | archive =>
        simp only [Provision.uploadMilestones, Provision.scriptMilestones, List.forall_mem_cons,
          Milestone.calls, List.cons_append, List.nil_append]
        simp [Makes.uploadFile, Makes.task .makeDir, Makes.task .extract]
  intro m mem asked made
  simp only [milestones, Agent.milestones, Provision.milestones, List.mem_cons, List.mem_append,
    List.mem_map] at mem
  rcases mem with rfl | (rfl | ⟨command, listed, rfl⟩) | rfl | rfl | ⟨command, listed, rfl⟩ | rfl |
    rfl | mem
  case inr.inr.inr.inr.inr.inr.inr => exact uploads _ _ m mem asked made
  all_goals simp only [Milestone.calls, List.mem_singleton, List.not_mem_nil] at made
  all_goals subst made
  · exact .start
  · exact .openAgent
  · exact .agent (.install listed)
  · exact .agent .run
  · exact .openTask
  · exact .task (.setup listed)

/-- The conversation of a trial in a sandbox, in its parts. -/
structure Parts (said prepared tested ended : List Exchange) (fate : Option Stage) : Prop where
  whole : said = prepared ++ (tested ++ ended)
  prepares : Walk (trial.milestones takesDirs taskName task) prepared fate
  /-- The tests are run when all before is done. -/
  ready : tested ≠ [] → fate = none
  tests : ∀ x ∈ tested, trial.TaskCommand taskName task x.call
  ends : ∀ x ∈ ended, x.call = .stop

variable {trial takesDirs taskName task}

section Said

variable {said prepared tested ended before after : List Exchange} {x : Exchange}
  {fate : Option Stage}

/-- All that is said in a trial are its own calls. -/
theorem Parts.makes (h : trial.Parts takesDirs taskName task said prepared tested ended fate) :
    ∀ x ∈ said, trial.Makes taskName task x.call := by
  intro x mem
  rw [h.whole, List.mem_append, List.mem_append] at mem
  rcases mem with mem | mem | mem
  · have made := (h.prepares.calls_prefix milestones_isFixed).subset (List.mem_map_of_mem mem)
    obtain ⟨m, on, asked⟩ := List.mem_flatMap.mp made
    exact trial.milestones_make takesDirs taskName task m on _ asked
  · exact .task (h.tests x mem)
  · rw [h.ends x mem]
    exact .stop

/-- What is no call up to a milestone, and no stop, is said after the call at that milestone was
answered. -/
theorem Parts.answered_before {stage : Stage} {asked : Call} {passes : asked.Answer → Bool}
    {earlier : List Milestone}
    (h : trial.Parts takesDirs taskName task said prepared tested ended fate)
    (place : said = before ++ x :: after)
    (among : earlier ++ [.call stage asked passes] <+: trial.milestones takesDirs taskName task)
    (later : ∀ m ∈ earlier ++ [.call stage asked passes], m.calls ≠ [x.call])
    (noStop : x.call ≠ .stop) : ∃ y ∈ before, y.call = asked ∧ y.isAnswered := by
  have prepares := h.prepares
  rw [h.whole] at place
  -- what is said after the preparation is said after all of it
  have afterwards : x ∈ tested ++ ended → ∃ y ∈ prepared, y.call = asked ∧ y.isAnswered := by
    intro mem
    have test : x ∈ tested := (List.mem_append.mp mem).resolve_right fun ends =>
      noStop (h.ends x ends)
    rw [h.ready (List.ne_nil_of_mem test)] at prepares
    exact prepares.exists_answered (among.subset (List.mem_append_right _ List.mem_cons_self))
  rcases List.append_eq_append_iff.mp place with ⟨more, rfl, tail⟩ | ⟨more, rfl, tail⟩
  · obtain ⟨y, mem, answered⟩ := afterwards (tail ▸ by simp)
    exact ⟨y, List.mem_append_left _ mem, answered⟩
  · cases more with
    | nil =>
        obtain ⟨y, mem, answered⟩ := afterwards (tail ▸ List.mem_cons_self)
        exact ⟨y, List.append_nil before ▸ mem, answered⟩
    | cons y more =>
        obtain ⟨rfl, -⟩ := List.cons.inj tail
        exact prepares.answered_before milestones_isFixed among later

/-- The agent's commands are run after its session was created … -/
theorem Parts.agent_opened
    (h : trial.Parts takesDirs taskName task said prepared tested ended fate)
    (place : said = before ++ x :: after) (command : trial.AgentCommand task x.call) :
    ∃ y ∈ before, y.call = .session Agent.sessionName trial.agent.env.entries ∧ y.isAnswered := by
  refine h.answered_before place (trial.agentOpening_prefix takesDirs taskName task) ?_ ?_
  · intro m mem same
    obtain ⟨mode, text, executes⟩ := command.executes
    simp only [List.mem_append, List.mem_singleton] at mem
    rcases mem with rfl | rfl
    all_goals
      rw [← List.singleton_inj.mp same] at executes
      cases executes
  · intro stop
    obtain ⟨mode, text, executes⟩ := command.executes
    rw [stop] at executes
    cases executes

/-- … and those of the task after its own was. -/
theorem Parts.task_opened
    (h : trial.Parts takesDirs taskName task said prepared tested ended fate)
    (place : said = before ++ x :: after) (command : trial.TaskCommand taskName task x.call) :
    ∃ y ∈ before, y.call = .session (sessionName taskName) trial.config.sessionEnv.entries ∧
      y.isAnswered := by
  have apart : "agent" ≠ sessionName taskName := Ne.symm (sessionName_ne_agent taskName)
  obtain ⟨mode, text, executes⟩ := command.executes
  refine h.answered_before place (trial.taskOpening_prefix takesDirs taskName task) ?_ ?_
  · intro m mem same
    simp only [Agent.milestones, List.mem_append, List.mem_cons, List.mem_map, List.not_mem_nil,
      or_false] at mem
    rcases mem with (rfl | (rfl | ⟨command, -, rfl⟩) | rfl) | rfl
    all_goals
      rw [← List.singleton_inj.mp same] at executes
      -- what is executed by then is in the agent's session
      simp [Container.executes?, Agent.sessionName, apart] at executes
  · intro stop
    rw [stop] at executes
    cases executes

end Said

/-- The tests make no call but those of the task. -/
theorem scoring_commands (session : String) (own : session = sessionName taskName) :
    (trial.scoring task session).All fun
      | .call asked => trial.TaskCommand taskName task asked
      | _ => True := by
  subst own
  refine All.bind (All.mapError _ ?_) fun output => ?_
  · refine trial.executeTests_all _ task fun script named => ?_
    exact trial.executor.execution_all (.test named) trivial (fun pid => .probe) .collect
  · exact readVerdict_all _ output

/-- Releasing the sandbox makes no call but the stop. -/
theorem releasing_stops (keep : Bool) : (Guard.releasing keep).All fun
    | .call asked => asked = .stop
    | _ => True := by
  refine ⟨trivial, ?_⟩
  cases keep with
  | true => exact All.log _ _
  | false =>
      refine All.bind (All.ask ?_).attempt fun stopped => ?_
      · rfl
      · cases stopped with
        | ok => exact All.pure ()
        | error e => exact All.log _ _

/-- A trial in a sandbox that never crashes has its parts. -/
theorem inside_parts {σ : Type} {backend : Backend σ} {c : Course σ}
    (calm : ∀ x ∈ (trial.inside takesDirs taskName task).talk backend c, x.IsCalm) :
    ∃ prepared tested ended fate, trial.Parts takesDirs taskName task
      ((trial.inside takesDirs taskName task).talk backend c) prepared tested ended fate := by
  rw [inside, settle_bind, talk_follow, pipeline_eq, talk_bind] at calm ⊢
  have prepares := trial.preparation_tracks takesDirs taskName task σ backend c fun x mem =>
    calm x (List.mem_append_left _ (List.mem_append_left _ mem))
  have ends (ending : Ending StageFailure Verdict) (d : Course σ) :
      ∀ x ∈ (Routine.log (ε := Empty) (if ending.isValue then .info else .error) .trial >>= fun _ =>
        Guard.releasing trial.config.keepSandbox >>= fun _ => Pure.pure (outcomeOf ending)).talk
          backend d, x.call = .stop :=
    All.talk ((All.log _ _).bind fun _ => (releasing_stops _).bind fun _ => All.pure _) backend d
  cases far : ((trial.preparation takesDirs taskName task).perform backend c).1 with
  | value =>
      rw [far] at prepares
      exact ⟨_, _, _, none, List.append_assoc .., prepares, fun _ => rfl,
        (scoring_commands _ rfl).talk backend _, ends _ _⟩
  | error e =>
      rw [far] at prepares
      exact ⟨_, [], _, some e.stage, List.append_assoc .., prepares, absurd rfl,
        fun _ mem => absurd mem List.not_mem_nil, ends _ _⟩
  | crash p =>
      rw [far] at prepares
      exact prepares.elim

end Parts

/-! ## Separation -/

section Separation

variable {answers : Tool.Answers} {spec : Spec} {fs : FileSystem} {trial : Trial}
  {taskName : String} {task : Task} {said before after : List Exchange} {x : Exchange}

/-- A session that was created, and that is created with one environment only, has this one. -/
theorem environment_of_opened {name : String} {env : List (String × String)}
    (answered : AgentTrial.Answered (backend (Tool.answering answers) spec fs) new before)
    (makes : ∀ y ∈ before, trial.Makes taskName task y.call)
    (only : ∀ env', trial.Makes taskName task (.session name env') → env' = env)
    (opened : ∃ y ∈ before, y.call = .session name env ∧ y.isAnswered) :
    (turns answers spec fs new (visits before)).2.environment (some name) = env := by
  refine Given.of_opens ((given_iff answers spec fs (visits before) (some name) _).mpr rfl) ?_ ?_
  · obtain ⟨y, mem, creates, heard⟩ := opened
    obtain ⟨t, recorded, same, value⟩ := exists_turn_of_answered answered mem heard
    exact ⟨t, recorded, same.trans creates, value⟩
  · intro t recorded env' opens
    have calls : (turns answers spec fs new (visits before)).1.map (·.call) = before.map (·.call) :=
      turns_calls new before
    obtain ⟨y, mem, same⟩ := List.mem_map.mp (calls ▸ List.mem_map_of_mem recorded)
    have made := makes y mem
    rw [same, opens.1] at made
    exact only env' made

theorem runWith_inSandbox {σ : Type} {make : Maker σ} {dir : String} {made : Made σ}
    (begun : trial.begin make dir = .inSandbox made task) :
    (trial.runWith make dir).2 =
      some ((trial.inside made.backend.takesDirs (taskNameOf dir) task).perform made.backend
        (made.course 0)).2.box := by
  unfold runWith
  rw [begun]

/-- In a container that is new, what was launched in a trial is what its calls launched. -/
theorem runWith_tool {make : Maker (Container (List Launch))} {dir : String}
    (begun : trial.begin make dir =
      .inSandbox ⟨backend (Tool.answering answers) spec fs, new⟩ task) :
    (trial.runWith make dir).2.map (·.tool) =
      some ((turns answers spec fs new (visits (trial.talk make dir))).1.flatMap (·.launches)) := by
  have told := (told_turns answers spec fs (visits (trial.talk make dir))).launches
  rw [runWith_inSandbox begun, Option.map_some, ← told, trial.talk_made begun, ← turns_talk]
  rfl

/-- Which commands of a trial in a container are executed with which environment. -/
structure Separate (trial : Trial) (spec : Spec) (taskName : String) (task : Task)
    (record : List Turn) : Prop where
  /-- The two sessions are not the same. -/
  apart : sessionName taskName ≠ Agent.sessionName
  /-- Every command is the agent's or the task's. -/
  whose : ∀ t ∈ record, (executes? t.call).isSome →
    trial.AgentCommand task t.call ∨ trial.TaskCommand taskName task t.call
  agent : ∀ t ∈ record, trial.AgentCommand task t.call → t.Carries spec trial.agent.env.entries
  task : ∀ t ∈ record, trial.TaskCommand taskName task t.call →
    t.Carries spec trial.config.sessionEnv.entries

/-- A command whose session was created before, and is created with one environment only, is executed
with this one. -/
theorem carries_of_opened {name command : String} {mode : RunMode} {env : List (String × String)}
    {now : Nat} {call : Call} (executes : executes? call = some (some name, mode, command))
    (answered : AgentTrial.Answered (backend (Tool.answering answers) spec fs) new before)
    (makes : ∀ y ∈ before, trial.Makes taskName task y.call)
    (only : ∀ env', trial.Makes taskName task (.session name env') → env' = env)
    (opened : ∃ y ∈ before, y.call = .session name env ∧ y.isAnswered) :
    (turn answers spec fs (turns answers spec fs new (visits before)).2 now call).1.Carries spec
      env := by
  rw [← environment_of_opened answered makes only opened]
  exact turn_carries executes

/-- Trials in containers that are new keep the two environments apart. -/
theorem separate {make : Maker (Container (List Launch))} {dir : String}
    (begun : trial.begin make dir =
      .inSandbox ⟨backend (Tool.answering answers) spec fs, new⟩ task) :
    trial.Separate spec (taskNameOf dir) task
      (turns answers spec fs new (visits (trial.talk make dir))).1 := by
  have apart := sessionName_ne_agent (taskNameOf dir)
  let made : Made (Container (List Launch)) := ⟨backend (Tool.answering answers) spec fs, new⟩
  let inside := trial.inside made.backend.takesDirs (taskNameOf dir) task
  obtain ⟨prepared, tested, ended, fate, parts⟩ := inside_parts
    (Routine.talk_isCalm (backend_isCalm (Tool.answering answers) spec fs) inside (made.course 0))
  have answered : AgentTrial.Answered made.backend new (inside.talk made.backend (made.course 0)) :=
    talk_answered made.backend inside (made.course 0)
  rw [trial.talk_made begun]
  generalize inside.talk made.backend (made.course 0) = said at parts answered
  have earlier {before after : List Exchange} {x : Exchange} (place : said = before ++ x :: after) :
      AgentTrial.Answered made.backend new before ∧
        ∀ y ∈ before, trial.Makes (taskNameOf dir) task y.call := by
    subst place
    exact ⟨answered.of_append, fun y mem => parts.makes y (List.mem_append_left _ mem)⟩
  refine ⟨apart, fun t recorded executes => ?_, fun t recorded command => ?_,
    fun t recorded command => ?_⟩
  · obtain ⟨before, x, after, place, rfl⟩ := exists_turn recorded
    obtain ⟨executed, executes⟩ := Option.isSome_iff_exists.mp executes
    exact (parts.makes x (place ▸ by simp)).command executes
  · obtain ⟨before, x, after, place, rfl⟩ := exists_turn recorded
    obtain ⟨answered, makes⟩ := earlier place
    obtain ⟨mode, text, executes⟩ := command.executes
    refine carries_of_opened executes answered makes (fun env' makes => ?_)
      (parts.agent_opened place command)
    rcases makes.session with same | same
    · exact (Prod.mk.inj same).2
    · exact absurd (Prod.mk.inj same).1.symm apart
  · obtain ⟨before, x, after, place, rfl⟩ := exists_turn recorded
    obtain ⟨answered, makes⟩ := earlier place
    obtain ⟨mode, text, executes⟩ := command.executes
    refine carries_of_opened executes answered makes (fun env' makes => ?_)
      (parts.task_opened place command)
    rcases makes.session with same | same
    · exact absurd (Prod.mk.inj same).1 apart
    · exact (Prod.mk.inj same).2

/-- **Separation.** However the container tool answers:

* after any calls on a container, a command is executed with the environment that its session was
  last given and with nothing else, and only a call that creates a session changes an environment,
  which is that of its session;
* so what a trial launches in its container is what its calls do, and there every command of the
  agent has the environment of the agent, and every command of the task, which is every other, has
  the one that the settings give its session. -/
theorem session_environments (answers : Tool.Answers) (spec : Spec) (fs : FileSystem) :
    (∀ visits now call,
      let past := turns answers spec fs new visits
      let next := turn answers spec fs past.2 now call
      Exact spec past.1 past.2 next.1 next.2) ∧
    ∀ (trial : Trial) (make : Maker (Container (List Launch))) (dir : String) (task : Task),
      trial.begin make dir = .inSandbox ⟨backend (Tool.answering answers) spec fs, new⟩ task →
        let record := (turns answers spec fs new (visits (trial.talk make dir))).1
        (trial.runWith make dir).2.map (·.tool) = some (record.flatMap (·.launches)) ∧
          trial.Separate spec (taskNameOf dir) task record :=
  ⟨turn_exact answers spec fs, fun _ _ _ _ begun => ⟨runWith_tool begun, separate begun⟩⟩

end Separation

/-! ## A trial with both environments -/

/-- A trial whose agent has a token and whose task has a locale. -/
def armed : Trial where
  config := { sessionEnv := .ofList [("LANG", "C")] }
  agent := { plain.agent with env := .ofList [("TOKEN", "t")] }
  executor := .hourly
  fs := plain.fs

/-- A container tool with which all goes well, and the process of the tests is gone at once. -/
def willing : Tool.Answers := fun _ args =>
  .finished { exitCode := if args.getLast? = some (Execution.probeCommand 42) then 1 else 0,
              output := "[1] 42" }

/-- The sandbox of the trial. -/
def inContainer : Maker (Container (List Launch)) := fun _ =>
  .value ⟨backend (Tool.answering willing) sample armed.fs, new⟩

theorem armed_begin : armed.begin inContainer "a" =
    .inSandbox ⟨backend (Tool.answering willing) sample armed.fs, new⟩ plainTask := by
  have loaded : Task.load armed.fs armed.config "a" = .ok plainTask := by
    refine eq_ok_of_toOption ?_
    decide +kernel
  exact armed.begin_made loaded rfl

/-- The agent is installed with its token, and the output of the tests is read without it. -/
theorem session_environments_armed :
    let record := (turns willing sample armed.fs new (visits (armed.talk inContainer "a"))).1
    let args := (record.flatMap (·.launches)).map (·.args)
    ((armed.runWith inContainer "a").2.map (·.tool) = some (record.flatMap (·.launches)) ∧
      armed.Separate sample (taskNameOf "a") plainTask record) ∧
      ["exec", "-e", "TOKEN=t", sample.id, "bash", "-c",
        "nohup bash -c 'pip install agent' < /dev/null 2>&1"] ∈ args ∧
      ["exec", "-e", "LANG=C", sample.id, "bash", "-c", "cat /tests/swe-eval-a.out"] ∈ args := by
  intro record args
  obtain ⟨-, trials⟩ := session_environments willing sample armed.fs
  refine ⟨trials armed inContainer "a" plainTask armed_begin, ?_, ?_⟩ <;> decide +kernel

end Trial

end AgentTrial
