import AgentTrial.Sandbox.Call

/-!
# Scripted sandboxes

A sandbox that answers by rules: the first rule that fits a call and is not used up says how the
call ends and how long it takes. A call that no rule fits succeeds at once.

- `Rule` is a rule, `Rule.fits` says which calls it is for.
- `Script.backend` is the sandbox; its state is the list of rules with the uses they have left.
-/

namespace AgentTrial.Script

/-- The kind of a call. -/
inductive Kind where
  | start
  | stop
  | session
  | run
  | probe
  | uploadFile
  | uploadDir
  deriving DecidableEq, Repr

/-- The kind that a word names. -/
def Kind.ofName? : String → Option Kind
  | "start" => some .start
  | "stop" => some .stop
  | "session" => some .session
  | "run" => some .run
  | "probe" => some .probe
  | "upload_file" => some .uploadFile
  | "upload_dir" => some .uploadDir
  | _ => none

/-- The kind of a call and the text that rules look into. -/
def subject : Call → Kind × String
  | .start => (.start, "")
  | .stop => (.stop, "")
  | .session name _ => (.session, name)
  | .run command _ _ _ => (.run, command)
  | .probe command _ => (.probe, command)
  | .uploadFile _ remote => (.uploadFile, remote)
  | .uploadDir _ remote => (.uploadDir, remote)

/-- How a call ends that a rule fits, and after how many milliseconds. -/
structure Rule where
  on : Kind
  /-- A text that the subject of the call has in it. -/
  fragment : String := ""
  /-- The uses left; none for no limit. -/
  uses : Option Nat := none
  delay : Nat := 0
  crash : Option Crash := none
  error : Option SandboxError := none
  exitCode : Int := 0
  output : String := ""
  stderr : String := ""
  accepts : Bool := true

/-- Whether `fragment` occurs in a text. -/
def occursIn (fragment : List Char) : List Char → Bool
  | [] => fragment.isEmpty
  | c :: cs => fragment.isPrefixOf (c :: cs) || occursIn fragment cs

/-- The first rule that fits, and the rules after its use. -/
def take? {ρ : Type} (fits : ρ → Bool) (used : ρ → ρ) : List ρ → Option (ρ × List ρ)
  | [] => none
  | rule :: rest =>
    if fits rule then some (rule, used rule :: rest)
    else (take? fits used rest).map fun (found, rest) => (found, rule :: rest)

/-- Whether a rule is for a call of a kind with a text. -/
def Rule.fits (kind : Kind) (text : String) (rule : Rule) : Bool :=
  rule.on == kind && rule.uses != some 0 && occursIn rule.fragment.toList text.toList

/-- The rule with one use less. -/
def Rule.used (rule : Rule) : Rule := { rule with uses := rule.uses.map (· - 1) }

/-- The answer of a rule that neither crashes nor errs. -/
def Rule.answer (rule : Rule) : (call : Call) → call.Answer
  | .run .. => ⟨rule.exitCode, rule.output, rule.stderr⟩
  | .probe .. => rule.exitCode
  | .uploadFile .. => rule.accepts
  | .uploadDir .. => rule.exitCode
  | .start => ()
  | .stop => ()
  | .session .. => ()

/-- How a call ends by a rule. -/
def Rule.ending (rule : Rule) (call : Call) : Ending SandboxError call.Answer :=
  match rule.crash, rule.error with
  | some crash, _ => .crash crash
  | none, some error => .error error
  | none, none => .value (rule.answer call)

/-- The rule for calls that no rule is for. -/
def otherwise : Rule := { on := .start }

/-- The sandbox that answers by rules. -/
def backend (id : String) (takesDirs : Bool) : Backend (List Rule) where
  id := id
  takesDirs := takesDirs
  respond rules _ call :=
    match take? (Rule.fits (subject call).1 (subject call).2) Rule.used rules with
    | some (rule, rules) => ({ ending := rule.ending call, delay := rule.delay }, rules)
    | none => ({ ending := otherwise.ending call }, rules)

end AgentTrial.Script
