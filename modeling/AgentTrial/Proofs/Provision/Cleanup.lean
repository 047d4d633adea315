import AgentTrial.Proofs.Provision.Errand
import AgentTrial.Proofs.Trial.Stages

/-!
# How provisioning stops

A provisioning from its first check to its last call, with a sandbox that may fail or crash at
every call and a disk that may fail at every step of packing.

* **Parts** — an upload makes two calls, packs, and goes on (`Uploads`), which leaves only a few ways
  to stop (`Stopped`): a provisioning goes step by step (`provisioning_stepwise`).
* **Files** — every file that an errand packs it discards, or it is dropped with it: this is seen on
  the errand itself (`Errand.Balanced`), so no run of it leaves a file (`Balanced.perform`), and no
  drop does (`Balanced.dropped`).
* **Whole** — so a provisioning makes its calls up to the first that fails, and leaves no file
  (`provisioning_stops`).
-/

namespace AgentTrial

open Routine

/-! ## Parts -/

namespace Provision

open FileSystem (Entries)

section Parts

variable {session testDir remoteDir script name : String}

theorem uploadScript_attempts (named : Path.fileName? script = some name) :
    (uploadScript remoteDir script).Proceeds
      (Attempts [.uploadFile (.file script) (remotePath remoteDir name)]) := by
  rw [uploadScript, named]
  refine Proceeds.ask (fun accepted succeeds => ?_) fun accepted fails => ?_
  · rw [if_pos (show accepted = true from succeeds)]
    exact .log _ _
  · rw [if_neg (show ¬ accepted = true from fails)]
    exact ⟨_, rfl⟩

theorem asDirectory_attempts (named : Path.fileName? script = some name) :
    (asDirectory testDir remoteDir script).Proceeds
      (Attempts [.uploadDir testDir remoteDir,
        .uploadFile (.file script) (remotePath remoteDir name)]) := by
  refine Proceeds.ask (fun code succeeds => ?_) fun code fails => ?_
  · rw [if_pos (show code = (0 : Int) from succeeds)]
    exact uploadScript_attempts named
  · rw [if_neg (show ¬ code = (0 : Int) from fails)]
    exact ⟨_, rfl⟩

theorem openRemote_attempts (named : Path.fileName? script = some name) :
    (openRemote session remoteDir script).Proceeds
      (Attempts [.run (makeDirCommand remoteDir) (some session) .normal stepLimit,
        .uploadFile (.file script) (remotePath remoteDir name)]) := by
  refine Proceeds.ask (fun made succeeds => ?_) fun made fails => ?_
  · rw [if_pos (show made.isSuccess = true from succeeds)]
    exact uploadScript_attempts named
  · rw [if_neg (show ¬ made.isSuccess = true from fails)]
    exact ⟨_, rfl⟩

theorem sendArchive_attempts (packed : Archive) :
    (sendArchive session remoteDir packed).Proceeds
      (Attempts [.uploadFile (.archive packed) (remoteArchive remoteDir),
        .run (extractCommand remoteDir) (some session) .normal stepLimit]) := by
  refine Proceeds.ask (fun accepted succeeds => ?_) fun accepted fails => ?_
  · rw [if_pos (show accepted = true from succeeds)]
    refine Proceeds.ask (fun extracted succeeds => ?_) fun extracted fails => ?_
    · rw [if_pos (show extracted.isSuccess = true from succeeds)]
      exact .pure ()
    · rw [if_neg (show ¬ extracted.isSuccess = true from fails)]
      exact ⟨_, rfl⟩
  · rw [if_neg (show ¬ accepted = true from fails)]
    exact ⟨_, rfl⟩

end Parts

/-- How an upload goes: some calls, packing, and some more calls. -/
inductive Uploads (packs : Prop) (first last : List Call) : List Exchange → Bool → Prop where
  | opening {said} (stopped : Attempts first said false) : Uploads packs first last said false
  | packing {said} (opened : Attempts first said true) (fails : ¬ packs) :
      Uploads packs first last said false
  | sending {said rest whole} (opened : Attempts first said true) (packed : packs)
      (sends : Attempts last rest whole) : Uploads packs first last (said ++ rest) whole

/-- The ways in which a provisioning stops midway. -/
inductive Stopped (checks packs : Prop) (sequence : List Call) : List Exchange → Prop where
  /-- The task's own files are not there, and no call is made. -/
  | unchecked (missing : ¬ checks) : Stopped checks packs sequence []
  /-- The first two calls succeed, and packing fails. -/
  | unpacked {said} (there : checks) (fails : ¬ packs) (made : said.map (·.call) = sequence.take 2)
      (all : ∀ x ∈ said, x.Succeeded) : Stopped checks packs sequence said
  /-- The last call that is made is the first that fails. -/
  | failed {said x} (there : checks) (early : ¬ packs → said.length < 2)
      (all : ∀ y ∈ said, y.Succeeded) (failed : ¬ x.Succeeded) :
      Stopped checks packs sequence (said ++ [x])

/-- How a provisioning goes that is to make some calls, with what is said in it and whether it goes
well. -/
structure Stepwise (checks packs : Prop) (sequence : List Call) (said : List Exchange)
    (whole : Bool) : Prop where
  /-- The calls are made in their order, from the first on. -/
  calls_prefix : said.map (·.call) <+: sequence
  /-- It goes well when the task's own files are there, packing succeeds, and all calls are made and
  succeed, … -/
  whole_iff : whole = true ↔
    checks ∧ packs ∧ said.map (·.call) = sequence ∧ ∀ x ∈ said, x.Succeeded
  /-- … and if not, it has stopped at the first of these that failed. -/
  stopped : whole = false → Stopped checks packs sequence said

/-- Without the task's own files nothing is said. -/
theorem Stepwise.unchecked {checks packs : Prop} {sequence : List Call} (missing : ¬ checks) :
    Stepwise checks packs sequence [] false where
  calls_prefix := List.nil_prefix
  whole_iff := by
    constructor
    · intro done
      cases done
    · intro all
      exact (missing all.1).elim
  stopped _ := .unchecked missing

namespace Uploads

variable {checks packs : Prop} {first last : List Call} {said : List Exchange} {whole : Bool}

/-- Calls alone are an upload when there is nothing to pack. -/
theorem ofAttempts (packed : packs) (h : Attempts first said whole) :
    Uploads packs first [] said whole := by
  cases whole with
  | true =>
      have both := Uploads.sending h packed .done
      rwa [List.append_nil] at both
  | false => exact .opening h

/-- Calls before packing and calls after it are an upload. -/
theorem ofParts {opens : Routine TrialError Unit} {sends : Unit → Routine TrialError Unit}
    (opened : opens.Proceeds (Attempts first))
    (packed : packs → ∀ a, (sends a).Proceeds (Attempts last))
    (fails : ¬ packs → ∃ e, sends = fun _ => Routine.fail e) :
    (opens >>= sends).Proceeds (Uploads packs first last) := by
  by_cases packs
  case pos holds =>
      refine opened.bind (packed holds) (fun said stopped => .opening stopped) ?_
      intro said rest whole gone later
      exact .sending gone holds later
  case neg not =>
      obtain ⟨e, rfl⟩ := fails not
      have nothing (a : Unit) : (Routine.fail e : Routine TrialError Unit).Proceeds
          fun rest whole => rest = [] ∧ whole = false := fun _ _ _ => ⟨rfl, rfl⟩
      refine opened.bind nothing (fun said stopped => .opening stopped) ?_
      rintro said rest whole gone ⟨rfl, rfl⟩
      rw [List.append_nil]
      exact .packing gone not

theorem calls_prefix (h : Uploads packs first last said whole) :
    said.map (·.call) <+: first ++ last := by
  cases h with
  | opening stopped =>
      have extended := stopped.append_failed last
      exact extended.calls_prefix
  | packing opened fails => exact opened.calls_prefix.trans (List.prefix_append _ _)
  | sending opened packed sends =>
      have both := opened.append sends
      exact both.calls_prefix

/-- An upload is done when its calls are made and have succeeded. -/
theorem whole_iff (h : Uploads packs first last said whole) :
    whole = true ↔
      packs ∧ said.map (·.call) = first ++ last ∧ ∀ x ∈ said, x.Succeeded := by
  constructor
  · intro done
    cases h with
    | opening stopped => cases done
    | packing opened fails => cases done
    | sending opened packed sends =>
        subst done
        exact ⟨packed, (opened.append sends).of_whole⟩
  · rintro ⟨packed, -, all⟩
    have goes {calls : List Call} (stopped : Attempts calls said false) : False := by
      obtain ⟨x, mem, failed⟩ := stopped.exists_failed
      exact failed (all x mem)
    cases h with
    | opening stopped => exact (goes stopped).elim
    | packing opened fails => exact (fails packed).elim
    | @sending said rest whole opened packed sends =>
        cases whole with
        | true => rfl
        | false => exact (goes (opened.append sends)).elim

/-- If it is not done it has stopped. -/
theorem stopped (h : Uploads packs first last said false) (two : first.length = 2)
    (there : checks) : Stopped checks packs (first ++ last) said := by
  generalize stops : false = whole at h
  cases h with
  | opening stopped =>
      have few := stopped.calls_prefix.length_le
      obtain ⟨before, x, rfl, all, failed⟩ := stopped.of_stopped
      simp only [List.length_map, List.length_append, List.length_cons, List.length_nil] at few
      exact .failed there (fun _ => by omega) all failed
  | packing opened fails =>
      obtain ⟨made, all⟩ := opened.of_whole
      refine .unpacked there fails ?_ all
      rw [made, ← two, List.take_left]
  | sending opened packed sends =>
      subst stops
      obtain ⟨before, x, same, all, failed⟩ := (opened.append sends).of_stopped
      rw [same]
      exact .failed there (fun fails => (fails packed).elim) all failed

/-- An upload goes step by step. -/
theorem stepwise (h : Uploads packs first last said whole) (two : first.length = 2)
    (there : checks) : Stepwise checks packs (first ++ last) said whole where
  calls_prefix := h.calls_prefix
  whole_iff := h.whole_iff.trans (and_iff_right there).symm
  stopped := by
    intro stops
    subst stops
    exact h.stopped two there

end Uploads

/-! ## Files -/

theorem Scratch.isValue_told {α : Type} (scratch : Scratch) (ending : Ending String α) :
    (scratch.told ending).isValue = ending.isValue := by
  cases ending <;> rfl

namespace Errand

/-- Whoever holds so many packed files discards them all, and one more for each that is packed on
the way. -/
def Balanced : Nat → Errand → Prop
  | held, .ended _ => held = 0
  | held, .part _ next => ∀ ending, (next ending).Balanced held
  | held, .pack _ _ next =>
    ∀ packed, (next packed).Balanced (held + if packed.isValue then 1 else 0)
  | held, .discard next => 0 < held ∧ next.Balanced (held - 1)

namespace Balanced

variable {held : Nat} {e last : Errand}

theorem andThen (first : e.Balanced held) (later : last.Balanced 0) :
    (e.andThen last).Balanced held := by
  induction e generalizing held with
  | ended ending =>
      obtain rfl : held = 0 := first
      cases ending with
      | value => exact later
      | error e => rfl
      | crash p => rfl
  | part r next ih => exact fun ending => ih ending (first ending)
  | pack dir entries next ih => exact fun packed => ih packed (first packed)
  | discard next ih => exact ⟨first.1, ih first.2⟩

variable {σ : Type} {backend : Backend σ} {scratch : Scratch} {c : Course σ}

/-- An errand that is done leaves the files that were there before. -/
theorem perform (h : e.Balanced held) (files : Nat) :
    (e.perform backend scratch c (files + held)).2 = files := by
  induction e generalizing held c with
  | ended ending =>
      obtain rfl : held = 0 := h
      rfl
  | part r next ih => exact ih _ (h _)
  | pack dir entries next ih =>
      have after := ih (scratch.told (packing scratch dir entries)) (c := c) (h _)
      rw [Scratch.isValue_told, ← Nat.add_assoc] at after
      rw [Errand.perform, packingFiles_eq]
      exact after
  | discard next ih =>
      obtain ⟨some, rest⟩ := h
      have after := ih rest (c := c)
      rw [← Nat.add_sub_assoc some] at after
      exact after

/-- So does an errand that is dropped, wherever it is. -/
theorem dropped (h : e.Balanced held) {files all left : Nat} (has : all = files + held)
    (dropped : Dropped backend scratch e c all held left) : left = files := by
  induction dropped with
  | amid => omega
  | past later ih => exact ih (h _) has
  | packing =>
      rw [packingFiles_eq]
      omega
  | @packed dir entries next c files' held left later ih =>
      have rest := h (scratch.told (packing scratch dir entries))
      rw [Scratch.isValue_told] at rest
      refine ih rest ?_
      rw [packingFiles_eq]
      omega
  | discarded later ih =>
      obtain ⟨some, rest⟩ := h
      exact ih rest (by omega)

end Balanced

end Errand

theorem archiving_balanced (session testDir : String) (entries : FileSystem.Entries)
    (remoteDir script : String) :
    (archiving session testDir entries remoteDir script).Balanced 0 := by
  intro opened
  cases opened with
  | value =>
      intro packed
      cases packed with
      | value packed => exact fun ending => ⟨Nat.one_pos, rfl⟩
      | error e => rfl
      | crash p => rfl
  | error e => rfl
  | crash p => rfl

/-- A provisioning discards what it packs. -/
theorem errand_balanced (takesDirs : Bool) (fs : FileSystem) (strategy : UploadStrategy)
    (session testDir remoteDir script : String) :
    (errand takesDirs fs strategy session testDir remoteDir script).Balanced 0 := by
  rw [errand]
  split
  · rfl
  · split
    · refine Errand.Balanced.andThen (fun _ => rfl) (Errand.Balanced.andThen ?_ fun _ => rfl)
      split
      · exact fun _ => rfl
      · exact archiving_balanced session testDir _ remoteDir script
    · rfl

/-! ## Whole -/

section Whole

variable {takesDirs : Bool} {fs : FileSystem} {session testDir remoteDir script : String}
  {entries : Entries}

theorem calls_take_length (strategy : UploadStrategy) (packed : Archive) :
    ((calls strategy session testDir packed remoteDir script).take 2).length = 2 := by
  cases strategy <;> rfl

/-- What is uploaded by a strategy, with all that may become of the disk and the sandbox. -/
theorem upload_uploads (scratch : Scratch) (strategy : UploadStrategy)
    (named : (Path.fileName? script).isSome) :
    let made := calls strategy session testDir (archive testDir entries) remoteDir script
    (upload strategy session testDir (scratch.told (packing scratch testDir entries)) remoteDir
        script).Proceeds
      (Uploads (strategy = .archive → (packing scratch testDir entries).isValue) (made.take 2)
        (made.drop 2)) := by
  obtain ⟨name, named⟩ := Option.isSome_iff_exists.mp named
  intro made
  unfold upload
  simp only [made, calls, named]
  cases strategy with
  | directory =>
      intro σ backend c
      refine .ofAttempts ?_ (asDirectory_attempts named σ backend c)
      intro isArchive
      cases isArchive
  | archive =>
      dsimp only
      rw [asArchive]
      refine Uploads.ofParts (openRemote_attempts named) (fun packs _ => ?_) fun fails => ?_
      · rcases scratch.told_packing testDir entries with ⟨told, -⟩ | ⟨_, -, unpacked⟩
        · rw [told]
          exact sendArchive_attempts _
        · rw [unpacked] at packs
          cases packs rfl
      · rcases scratch.told_packing testDir entries with ⟨-, packs⟩ | ⟨_, told, -⟩
        · exact absurd (fun _ => packs) fails
        · rw [told]
          exact ⟨_, rfl⟩

/-- A provisioning goes step by step. -/
theorem provisioning_stepwise (scratch : Scratch) (takesDirs : Bool) (fs : FileSystem)
    (strategy : UploadStrategy) (session testDir remoteDir script : String) :
    let kind := effective strategy takesDirs
    let entries := (fs.directory? testDir).getD .nil
    (provisioning scratch takesDirs fs strategy session testDir remoteDir script).Proceeds
      (Stepwise ((fs.directory? testDir).isSome ∧ fs.isFile script = true)
        (kind = .archive → (packing scratch testDir entries).isValue)
        (calls kind session testDir (archive testDir entries) remoteDir script)) := by
  intro kind entries
  rw [provisioning]
  cases here : fs.directory? testDir with
  | none => exact fun _ _ _ => .unchecked (by simp)
  | some below =>
      obtain rfl : entries = below := by
        show (fs.directory? testDir).getD .nil = below
        rw [here]
        rfl
      dsimp only
      cases isFile : fs.isFile script with
      | false => exact fun _ _ _ => .unchecked (by simp)
      | true =>
          have named := FileSystem.fileName?_isSome_of_isFile isFile
          have there : (some entries).isSome = true ∧ true = true := ⟨rfl, rfl⟩
          refine Proceeds.after (.logIf _ _ _) fun _ => Proceeds.before ?_ fun _ => .log _ _
          refine (upload_uploads scratch kind named).mono fun said whole uploads => ?_
          have goes := uploads.stepwise (calls_take_length kind _) there
          rwa [List.take_append_drop] at goes

theorem effective_eq_archive (strategy : UploadStrategy) :
    effective strategy takesDirs = .archive ↔ strategy = .archive ∨ takesDirs = false := by
  cases strategy <;> cases takesDirs <;> simp [effective]

end Whole

section Stops

variable {σ : Type}

/-- **Whole.** For every strategy, sandbox, test directory, script and remote directory, whatever
the sandbox answers and whatever becomes of the disk:

* an archive is uploaded where that is the strategy, or where the sandbox takes no directories;
* what is said goes step by step along the calls of the strategy, and tells how it ends;
* no file is left on the disk, whether it ends or is dropped;
* and what is done with the sandbox is the provisioning itself. -/
theorem provisioning_stops (backend : Backend σ) (scratch : Scratch) (fs : FileSystem)
    (strategy : UploadStrategy) (session testDir remoteDir script : String) (c : Course σ)
    (files : Nat) :
    let kind := effective strategy backend.takesDirs
    let entries := (fs.directory? testDir).getD .nil
    let provisions := errand backend.takesDirs fs strategy session testDir remoteDir script
    let run := provisions.perform backend scratch c files
    let said := (provisions.routine scratch).talk backend c
    (kind = .archive ↔ strategy = .archive ∨ backend.takesDirs = false) ∧
      run.1.2.entries.toList = c.entries.toList ++ said.map Exchange.entry ∧
      Stepwise ((fs.directory? testDir).isSome ∧ fs.isFile script = true)
        (kind = .archive → (packing scratch testDir entries).isValue)
        (calls kind session testDir (archive testDir entries) remoteDir script) said
        run.1.1.isValue ∧
      run.2 = files ∧
      (∀ left, provisions.Dropped backend scratch c files 0 left → left = files) ∧
      run.1 = provision backend scratch fs strategy session testDir remoteDir script c := by
  intro kind entries provisions run said
  have balanced : provisions.Balanced 0 := errand_balanced ..
  have whole : provisions.routine scratch =
    provisioning scratch backend.takesDirs fs strategy session testDir remoteDir script :=
      errand_routine scratch
  have performed : run.1 = (provisions.routine scratch).perform backend c :=
    Errand.perform_routine backend provisions c files
  refine ⟨effective_eq_archive strategy, ?_, ?_, balanced.perform files,
    fun left dropped => balanced.dropped rfl dropped, ?_⟩
  · rw [performed]
    exact perform_entries backend _ c
  · rw [performed]
    simp only [said, whole]
    exact provisioning_stepwise scratch backend.takesDirs fs strategy session testDir remoteDir
      script σ backend c
  · rw [performed, whole, provision]

/-- A disk that is full when the second file is packed. -/
def fullDisk : Scratch :=
  { Scratch.steady with
    append := fun names => if names = ["nested", "a.py"] then .error "disk full" else .value () }

/-- Where packing fails the first two calls have been made, and nothing is left, also when the
provisioning is dropped. -/
theorem provisioning_stops_unpacked :
    let provisions := errand false linkedFiles .directory "s" "tests" "/t" "run.sh"
    let run := provisions.perform (.obliging false) fullDisk (.begin ()) 3
    let said := (provisions.routine fullDisk).talk (.obliging false) (.begin ())
    run.1.1 = .error (.provision "failed to compress test directory: disk full") ∧
      said.map (·.call) = [.run (makeDirCommand "/t") (some "s") .normal stepLimit,
        .uploadFile (.file "run.sh") "/t/run.sh"] ∧
      run.2 = 3 ∧
      ∀ left, provisions.Dropped (.obliging false) fullDisk (.begin ()) 3 0 left → left = 3 := by
  intro provisions run said
  obtain ⟨-, -, -, kept, dropped, -⟩ := provisioning_stops (Backend.obliging false) fullDisk
    linkedFiles .directory "s" "tests" "/t" "run.sh" (.begin ()) 3
  exact ⟨by decide +kernel, by decide +kernel, kept, dropped⟩

end Stops

end Provision

end AgentTrial
