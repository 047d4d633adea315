import AgentTrial.Proofs.FileSystem.Lookup
import AgentTrial.Proofs.Provision.Packing
import AgentTrial.Proofs.Provision.Strategies
import AgentTrial.Proofs.Routine.Conversation
import AgentTrial.Proofs.Trial.Deeds
import AgentTrial.Provision.Errand

/-!
# Errands

What is done with a sandbox by who uses the local disk too, apart from the disk.

* **Sequencing** — an errand after another is its routine after that of the other
  (`routine_andThen`), and performing an errand is performing its routine (`perform_routine`).
* **Disks** — whatever the disk does, the errand of a provisioning is the provisioning
  (`errand_routine`).
* **Uploads** — whatever the disk does, an archive that is uploaded holds the files of the test
  directory (`archive_exact`).
-/

namespace AgentTrial.Provision

open FileSystem (Entries)
open Routine

/-! ## Sequencing -/

namespace Errand

variable {scratch : Scratch}

theorem routine_andThen (e last : Errand) :
    (e.andThen last).routine scratch = e.routine scratch >>= fun _ => last.routine scratch := by
  induction e with
  | ended ending => cases ending <;> rfl
  | part r next ih =>
      show r.follow _ = (r.follow _).follow _
      rw [follow_assoc]
      exact congrArg r.follow (funext ih)
  | pack dir entries next ih => exact ih _
  | discard next ih => exact ih

/-- Performing an errand is performing its routine, whatever becomes of the disk. -/
theorem perform_routine {σ : Type} (backend : Backend σ) (e : Errand) (c : Course σ) (files : Nat) :
    (e.perform backend scratch c files).1 = (e.routine scratch).perform backend c := by
  induction e generalizing c files with
  | ended ending => rfl
  | part r next ih =>
      rw [routine, perform_follow]
      exact ih _ _ _
  | pack dir entries next ih => exact ih _ _ _
  | discard next ih => exact ih _ _

end Errand

/-! ## Disks -/

theorem follow_ended {ε α : Type} (r : Routine ε α) : r.follow .ended = r := by
  induction r with
  | ended => rfl
  | call asked next ih => simp only [follow, ih]
  | callWithin limit asked next ih => simp only [follow, ih]
  | sleep millis next ih => simp only [follow, ih]
  | note event next ih => simp only [follow, ih]
  | deadline clock secs next ih => simp only [follow, ih]
  | release next ih => simp only [follow, ih]

/-- Bringing a directory in by way of the disk is bringing it in as it was packed. -/
theorem archiving_routine (scratch : Scratch) (session testDir : String) (entries : Entries)
    (remoteDir script : String) :
    (archiving session testDir entries remoteDir script).routine scratch =
      asArchive session (scratch.told (packing scratch testDir entries)) remoteDir script := by
  refine congrArg (openRemote session remoteDir script).follow (funext fun ending => ?_)
  cases ending with
  | value =>
      show (Errand.routine scratch _) = _
      rw [Errand.routine]
      cases scratch.told (packing scratch testDir entries) with
      | value packed => exact follow_ended _
      | error e => rfl
      | crash p => rfl
  | error e => rfl
  | crash p => rfl

section Whole

variable {takesDirs : Bool} {fs : FileSystem} {strategy : UploadStrategy}
  {session testDir remoteDir script : String} {entries : Entries}

/-- **Disks.** What an errand does with the sandbox is the provisioning, whatever becomes of the
disk. -/
theorem errand_routine (scratch : Scratch) :
    (errand takesDirs fs strategy session testDir remoteDir script).routine scratch =
      provisioning scratch takesDirs fs strategy session testDir remoteDir script := by
  rw [errand, provisioning]
  cases fs.directory? testDir with
  | none => rfl
  | some entries =>
      dsimp only
      split
      · rw [Errand.routine_andThen, Errand.routine_andThen]
        simp only [Errand.routine, follow_ended]
        unfold upload
        cases effective strategy takesDirs with
        | directory => simp only [Errand.routine, follow_ended]
        | archive => simp only [archiving_routine]
      · rfl

/-! ## Uploads -/

/-- An archive is uploaded only if it is a certain one. -/
def Sends (packed : Archive) : Deed → Prop
  | .call (.uploadFile (.archive other) _) => other = packed
  | _ => True

theorem upload_sends (scratch : Scratch) :
    (upload strategy session testDir (scratch.told (packing scratch testDir entries)) remoteDir
      script).All (Sends (archive testDir entries)) := by
  unfold upload
  cases strategy with
  | directory => exact asDirectory_all trivial fun _ _ => trivial
  | archive =>
      refine asArchive_all trivial (fun _ _ => trivial) (fun packed told => ?_) trivial
      rcases scratch.told_packing testDir entries with ⟨whole, -⟩ | ⟨text, fails, -⟩
      · exact Ending.value.inj (told.symm.trans whole)
      · rw [fails] at told
        cases told

/-- Whatever the disk does, an archive that is uploaded is that of the test directory. -/
theorem provisioning_sends (scratch : Scratch) (here : fs.directory? testDir = some entries) :
    (provisioning scratch takesDirs fs strategy session testDir remoteDir script).All
      (Sends (archive testDir entries)) := by
  rw [provisioning, here]
  dsimp only
  split
  · refine (All.logIf _ _ _).bind fun _ => ?_
    exact (upload_sends scratch).bind fun _ => All.log _ _
  · exact All.fail _

/-- **Uploads.** For every directory of a file tree as a disk holds it, and every path that leads to
it:

* its archive has one entry for each regular file that is found below it without following links,
  with the bytes of the file and under the names that lead to it, and no other entry;
* whatever becomes of the disk and whatever the sandbox answers, no other archive is uploaded;
* and when all goes well this one is, where the strategy is to upload an archive.

What is done with the sandbox by way of the disk is the provisioning itself. -/
theorem archive_exact (wellNamed : fs.root.WellNamed) (here : fs.directory? testDir = some entries)
    (takesDirs : Bool) (strategy : UploadStrategy) (session remoteDir script : String) :
    let packed := archive testDir entries
    let provisions := errand takesDirs fs strategy session testDir remoteDir script
    packed.Holds entries ∧
      (∀ (scratch : Scratch) (σ : Type) (backend : Backend σ) (c : Course σ),
        ∀ x ∈ (provisions.routine scratch).talk backend c, ∀ uploaded remote,
          x.call = .uploadFile (.archive uploaded) remote → Archive.Holds uploaded entries) ∧
      (∀ scratch, provisions.routine scratch =
        provisioning scratch takesDirs fs strategy session testDir remoteDir script) ∧
      (effective strategy takesDirs = .archive → ∀ content, fs.node? script = .ok (.file content) →
        ∀ scratch : Scratch, (packing scratch testDir entries).isValue →
        ∀ (σ : Type) (backend : Backend σ), backend.Succeeds → ∀ c,
          .uploadFile (.archive packed) (remoteArchive remoteDir) ∈
            ((provisions.routine scratch).talk backend c).map (·.call)) := by
  intro packed provisions
  have below := FileSystem.directory?_wellNamed wellNamed here
  have holds : packed.Holds entries := archive_holds below testDir
  refine ⟨holds, ?_, errand_routine, ?_⟩
  · intro scratch σ backend c x mem uploaded remote uploads
    rw [errand_routine] at mem
    have sends : Sends packed (.call x.call) := (provisioning_sends scratch here).talk backend c x mem
    rw [uploads] at sends
    exact (show uploaded = packed from sends) ▸ holds
  · intro asArchive content isFile scratch packs σ backend succeeds c
    obtain ⟨calls, -⟩ := provisioning_does takesDirs strategy session remoteDir here packs isFile σ
      backend succeeds c
    rw [errand_routine, calls, asArchive]
    show _ ∈ [_, _, Call.uploadFile (.archive packed) _, _]
    simp

end Whole

/-! ## A directory with links -/

/-- Test files with directories among them, one of them empty, and links to a file and to a
directory. -/
def linked : Entries :=
  .cons "config.json" (.file [123, 125])
    (.cons "nested" (.dir (.cons "a.py" (.file [0, 255]) (.cons "..b" (.dir
      (.cons "c d" (.file []) .nil)) .nil)))
    (.cons "empty" (.dir .nil) (.cons "ln" (.link "config.json")
      (.cons "again" (.link "nested") .nil))))

/-- A file tree with these test files and a script. -/
def linkedFiles : FileSystem :=
  { root := .dir (.cons "tests" (.dir linked) (.cons "run.sh" (.file [35]) .nil))
    workingDir := [] }

theorem linkedFiles_wellNamed : linkedFiles.root.WellNamed := by
  simp [linkedFiles, linked, FileSystem.Node.WellNamed, FileSystem.Entries.WellNamed,
    FileSystem.Entries.find?]
  decide

theorem archive_exact_linked :
    (archive "./tests/" linked).Holds linked ∧
      archive "./tests/" linked =
        [("config.json", [123, 125]), ("nested/a.py", [0, 255]), ("nested/..b/c d", [])] := by
  have here : linkedFiles.directory? "./tests/" = some linked := by rfl
  obtain ⟨holds, -⟩ := archive_exact linkedFiles_wellNamed here false .directory "s" "/t" "run.sh"
  exact ⟨holds, by decide +kernel⟩

end AgentTrial.Provision
