import AgentTrial.Proofs.Container.Turns

/-!
# Containers that arguments name

Which containers the tool takes a list of arguments to be about.

* **Paths** — an argument of a copy is a path in a container when it has a colon, unless it is an
  option or begins like a local path (`containerOf?`).
* **Names** — a container's own name can be told from all that stands around it (`IsOwn`), so every
  list names the sandbox's container, and no other unless a local path is taken for one in it
  (`Does.named`).
-/

namespace AgentTrial

/-- The local path that a call asks to be copied into the container. -/
def Call.localPath? : Call → Option String
  | .uploadFile upload _ => some upload.path
  | .uploadDir dir _ => some (dir ++ "/.")
  | _ => none

namespace Container

/-! ## Paths -/

/-- Whether the first character of an argument keeps the tool from reading it as a path in a
container: it is an option, a path that is local for certain, or has no name before its colon. -/
def isLocalStart (c : Char) : Bool := c == '-' || c == '/' || c == '.' || c == ':'

/-- The container that the tool takes an argument of a copy to be a path in. -/
def containerOf? (arg : String) : Option String :=
  if arg.toList.head?.any isLocalStart ∨ ':' ∉ arg.toList then none
  else some (String.ofList (arg.toList.takeWhile (· ≠ ':')))

/-- The containers that a list of arguments is about: those to remove, the one to run, the one to
execute in, and those to copy from and to. -/
def named : List String → List String
  | "rm" :: rest => rest.filter fun arg => arg.toList.head? ≠ some '-'
  | "run" :: rest => run rest
  | "exec" :: rest => exec rest
  | "cp" :: rest => rest.filterMap containerOf?
  | _ => []
where
  run : List String → List String
    | "--name" :: id :: _ => [id]
    | _ :: rest => run rest
    | [] => []
  exec : List String → List String
    | "-e" :: _ :: rest => exec rest
    | id :: _ => [id]
    | [] => []

/-- What stands before the first colon is the name of a container, unless it begins like a local
path. -/
theorem containerOf?_append {name : String} {c : Char} (first : name.toList.head? = some c)
    (noLocal : isLocalStart c = false) (noColon : ':' ∉ name.toList) (rest : String) :
    containerOf? (name ++ ":" ++ rest) = some name := by
  have chars : (name ++ ":" ++ rest).toList = name.toList ++ ':' :: rest.toList := by
    simp [String.toList_append]
  have before : ∀ c ∈ name.toList, decide (c ≠ ':') = true := by
    intro c mem
    exact decide_eq_true fun same => noColon (same ▸ mem)
  have inContainer : ¬((name ++ ":" ++ rest).toList.head?.any isLocalStart ∨
      ':' ∉ (name ++ ":" ++ rest).toList) := by
    rw [chars, List.head?_append, first]
    simp [noLocal]
  rw [containerOf?, if_neg inContainer, chars, List.takeWhile_append_of_pos before,
    List.takeWhile_cons_of_neg (by simp), List.append_nil, String.ofList_toList]

/-! ## Names -/

theorem safeChar_ne_colon (c : Char) : safeChar c ≠ ':' := by
  intro same
  unfold safeChar at same
  split at same
  · rename_i safe
    delta Char.toLower at same
    split at same
    · -- a letter that is made small stays a letter
      have shifted := congrArg Char.val same
      grind
    · subst same
      revert safe
      decide
  · revert same
    decide

/-- A name of a container can be told from what stands around it among arguments. -/
structure IsOwn (id : String) : Prop where
  letter : id.toList.head? = some 's'
  noColon : ':' ∉ id.toList

theorem isOwn_idOf (taskName : String) {suffix : String} (plain : ':' ∉ suffix.toList) :
    IsOwn (idOf taskName suffix) := by
  have chars : (idOf taskName suffix).toList =
      "swe-eval-".toList ++ (taskName.toList.map safeChar ++ '-' :: suffix.toList) := by
    show ("swe-eval-" ++ taskName.map safeChar ++ "-" ++ suffix).toList = _
    simp [String.toList_append]
  constructor
  · rw [chars]
    rfl
  · rw [chars]
    simp only [List.mem_append, List.mem_map, List.mem_cons, not_or, not_exists, not_and]
    exact ⟨by decide, fun c _ => safeChar_ne_colon c, by decide, plain⟩

theorem IsOwn.noOption {id : String} (own : IsOwn id) : id ≠ "-e" := by
  rintro rfl
  exact absurd own.letter (by decide)

variable {spec : Spec} {environment : Option String → List (String × String)}

theorem remove_named (own : IsOwn spec.id) : named spec.removeArguments = [spec.id] := by
  show ["-f", spec.id].filter (fun arg => arg.toList.head? ≠ some '-') = [spec.id]
  simp [own.letter]

theorem run_named : named spec.runArguments = [spec.id] := rfl

theorem exec_named (own : IsOwn spec.id) (env : List (String × String)) (command : String) :
    named (spec.execArguments env command) = [spec.id] := by
  show named.exec (env.flatMap (fun pair => ["-e", s!"{pair.1}={pair.2}"]) ++
    [spec.id, "bash", "-c", command]) = [spec.id]
  induction env with
  | nil =>
      have here := own.noOption
      simp only [List.flatMap_nil, List.nil_append]
      unfold named.exec
      split <;> simp_all
  | cons pair env ih => exact ih

/-- A copy names the container of the sandbox, and before it the one that the path is taken to be
in. -/
theorem copy_named (own : IsOwn spec.id) (path remote : String) :
    named (spec.copyArguments path remote) = (containerOf? path).toList ++ [spec.id] := by
  have target : containerOf? (spec.id ++ ":" ++ remote) = some spec.id :=
    containerOf?_append own.letter rfl own.noColon remote
  show [path, spec.id ++ ":" ++ remote].filterMap containerOf? = _
  cases read : containerOf? path with
  | none => simp [read, target]
  | some other => simp [read, target]

/-- All that a command launches is about the container, and a copy also about the one that its local
path is taken to be in. -/
theorem Does.named (own : IsOwn spec.id) {call : Call} {all : List (List String)}
    (does : Does spec environment call all) : ∀ args ∈ all,
      named args = [spec.id] ∨ ∃ path remote, call.localPath? = some path ∧
        args = spec.copyArguments path remote ∧
        named args = (containerOf? path).toList ++ [spec.id] := by
  have exec := exec_named own
  have copy := copy_named own
  cases does with
  | session => simp
  | run => simp [exec]
  | runApart => simp [exec]
  | probe => simp [exec]
  | noFile => simp
  | file =>
      intro args mem
      rw [List.mem_singleton.mp mem]
      exact .inr ⟨_, _, rfl, rfl, copy _ _⟩
  | noDir => simp [exec]
  | dir =>
      intro args mem
      rcases List.mem_cons.mp mem with rfl | mem
      · exact .inl (exec _ _)
      · rw [List.mem_singleton.mp mem]
        exact .inr ⟨_, _, rfl, rfl, copy _ _⟩

end Container

end AgentTrial
