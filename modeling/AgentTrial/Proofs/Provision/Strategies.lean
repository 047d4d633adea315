import AgentTrial.Proofs.FileSystem.Lookup
import AgentTrial.Proofs.Provision.Store
import AgentTrial.Proofs.Routine.Success

/-!
# The two ways to upload

What a sandbox holds after the test assets and the scoring script have been brought in as a
directory, and what it holds after they have been brought in as an archive.

* **Calls** — when all goes well a provisioning makes the calls of its strategy
  (`provisioning_does`).
* **Directory** — the script comes last, so it is there whatever the tests are (`left_directory`).
* **Archive** — the script comes first and the archive lies among the tests until it is deleted, so
  a test file of the script's name stays and one of the archive's name does not (`left_archive`).
* **Agreement** — the two leave the same files exactly when there are no such test files
  (`strategies_agree_iff`).
-/

namespace AgentTrial.Provision

open FileSystem (Entries)
open Routine (Does)

/-! ## Calls -/

section Calls

variable {session testDir remoteDir script name : String} {entries : Entries} {fs : FileSystem}

theorem uploadScript_does (named : Path.fileName? script = some name) :
    (uploadScript remoteDir script).Does
      [.uploadFile (.file script) (remotePath remoteDir name)] (fun _ => True) := by
  rw [uploadScript, named]
  refine ((Does.ask _).mapError _).bind fun accepted holds => ?_
  have holds : accepted = true := holds
  rw [if_pos holds]
  exact .log _ _

theorem asDirectory_does (named : Path.fileName? script = some name) :
    (asDirectory testDir remoteDir script).Does
      [.uploadDir testDir remoteDir, .uploadFile (.file script) (remotePath remoteDir name)]
      (fun _ => True) := by
  refine ((Does.ask _).mapError _).bind fun code holds => ?_
  have holds : code = (0 : Int) := holds
  rw [if_pos holds]
  exact uploadScript_does named

theorem openRemote_does (named : Path.fileName? script = some name) :
    (openRemote session remoteDir script).Does
      [.run (makeDirCommand remoteDir) (some session) .normal stepLimit,
        .uploadFile (.file script) (remotePath remoteDir name)]
      (fun _ => True) := by
  refine ((Does.ask _).mapError _).bind fun made holds => ?_
  have holds : CommandOutput.isSuccess made = true := holds
  rw [if_pos holds]
  exact uploadScript_does named

theorem sendArchive_does (packed : Archive) :
    (sendArchive session remoteDir packed).Does
      [.uploadFile (.archive packed) (remoteArchive remoteDir),
        .run (extractCommand remoteDir) (some session) .normal stepLimit]
      (fun _ => True) := by
  refine ((Does.ask _).mapError _).bind fun accepted holds => ?_
  have holds : accepted = true := holds
  rw [if_pos holds]
  refine ((Does.ask _).mapError _).bind fun extracted holds => ?_
  have holds : CommandOutput.isSuccess extracted = true := holds
  rw [if_pos holds]
  exact .pure trivial

theorem asArchive_does (packed : Archive) (named : Path.fileName? script = some name) :
    (asArchive session (.value packed) remoteDir script).Does
      [.run (makeDirCommand remoteDir) (some session) .normal stepLimit,
        .uploadFile (.file script) (remotePath remoteDir name),
        .uploadFile (.archive packed) (remoteArchive remoteDir),
        .run (extractCommand remoteDir) (some session) .normal stepLimit]
      (fun _ => True) :=
  (openRemote_does named).bind fun _ _ => sendArchive_does packed

/-- When all goes well a provisioning makes the calls of the strategy that its sandbox allows. -/
theorem provisioning_does {content : List UInt8} {scratch : Scratch} (takesDirs : Bool)
    (strategy : UploadStrategy) (session remoteDir : String)
    (tests : fs.directory? testDir = some entries)
    (packs : (packing scratch testDir entries).isValue)
    (scoring : fs.node? script = .ok (.file content)) :
    (provisioning scratch takesDirs fs strategy session testDir remoteDir script).Does
      (calls (effective strategy takesDirs) session testDir (archive testDir entries) remoteDir
        script) (fun _ => True) := by
  obtain ⟨name, named⟩ := Option.isSome_iff_exists.mp (FileSystem.fileName?_isSome scoring)
  have isFile : fs.isFile script = true := by rw [FileSystem.isFile, scoring]; rfl
  have packed : scratch.told (packing scratch testDir entries) =
      .value (archive testDir entries) := by
    rcases scratch.told_packing testDir entries with ⟨told, -⟩ | ⟨_, -, fails⟩
    · exact told
    · rw [fails] at packs
      cases packs
  have uploaded :
      (upload (effective strategy takesDirs) session testDir
          (scratch.told (packing scratch testDir entries)) remoteDir script).Does
        (calls (effective strategy takesDirs) session testDir (archive testDir entries) remoteDir
          script) (fun _ => True) := by
    unfold calls
    rw [named, packed]
    cases effective strategy takesDirs with
    | directory => exact asDirectory_does named
    | archive => exact asArchive_does _ named
  rw [provisioning, tests]
  dsimp only
  rw [if_pos isFile]
  refine (Does.logIf _ _ _).bind fun _ _ => ?_
  have whole := uploaded.bind fun _ _ => Does.log .info .provisioning
  rwa [List.append_nil] at whole

end Calls

/-- An archive is taken by every sandbox. -/
theorem effective_archive (takesDirs : Bool) : effective .archive takesDirs = .archive := by
  cases takesDirs <;> rfl

/-! ## What is left -/

section Left

variable {session testDir remoteDir script name : String} {entries : Entries} {fs : FileSystem}
  {content : List UInt8}

/-- Test files below `base`, and then the script. -/
def Store.ofDirectory (base : List String) (entries : Entries) (name : String)
    (content : List UInt8) : Store :=
  (Store.empty.copy base entries).write (base ++ [name]) (.bytes content)

/-- The script below `base`, then the test files, and no archive. -/
def Store.ofArchive (base : List String) (entries : Entries) (name : String)
    (content : List UInt8) : Store :=
  ((Store.empty.write (base ++ [name]) (.bytes content)).copy base entries).remove
    (base ++ [archiveName])

/-- The names that lead to an uploaded file. -/
theorem steps_remotePath (isName : Path.IsName name) :
    Path.steps (remotePath remoteDir name) = Path.steps remoteDir ++ [name] := by
  rw [remotePath, Path.steps_append, Path.steps_trimSlashes, Path.steps_of_isName isName]

theorem isName_of_fileName? (named : Path.fileName? script = some name) : Path.IsName name := by
  obtain ⟨last, notUp⟩ := Option.filter_eq_some_iff.mp named
  exact Path.isName_of_mem_steps (List.mem_of_getLast? last) (by simpa using notUp)

theorem left_directory (session remoteDir : String) (packed : Archive)
    (tests : fs.directory? testDir = some entries)
    (scoring : fs.node? script = .ok (.file content)) (named : Path.fileName? script = some name) :
    Store.left fs (calls .directory session testDir packed remoteDir script) =
      .ofDirectory (Path.steps remoteDir) entries name content := by
  unfold calls Store.ofDirectory
  rw [named]
  simp only [Store.left, List.foldl_cons, List.foldl_nil, Store.after, tests, scoring,
    Option.getD_some, steps_remotePath (isName_of_fileName? named)]

theorem left_archive (session testDir remoteDir : String)
    (scoring : fs.node? script = .ok (.file content)) (named : Path.fileName? script = some name)
    (wellNamed : entries.WellNamed) :
    Store.left fs (calls .archive session testDir (archive testDir entries) remoteDir script) =
      .ofArchive (Path.steps remoteDir) entries name content := by
  unfold calls Store.ofArchive
  rw [named]
  have archiveIs : Path.steps (remoteArchive remoteDir) = Path.steps remoteDir ++ [archiveName] :=
    steps_remotePath (by decide)
  simp only [Store.left, List.foldl_cons, List.foldl_nil, Store.after, scoring, Option.getD_some,
    steps_remotePath (isName_of_fileName? named), archiveIs, Store.run_makeDirCommand,
    Store.run_extractCommand]
  -- the archive is there when it is unpacked, and gone afterwards
  rw [Store.write_apply, if_pos rfl]
  dsimp only
  rw [archive_eq_pack wellNamed, Store.unpack_pack wellNamed]
  funext place
  simp only [Store.remove_apply, Store.copy, Store.write_apply]
  by_cases here : place = Path.steps remoteDir ++ [archiveName]
  · rw [if_pos here, if_pos here]
  · rw [if_neg here, if_neg here, if_neg here]

theorem Store.ofDirectory_apply (base place : List String) :
    ofDirectory base entries name content place =
      if place = base ++ [name] then some (.bytes content)
      else (testFile? base entries place).map .bytes := by
  rw [ofDirectory, write_apply, copy]
  cases testFile? base entries place <;> rfl

theorem Store.ofArchive_apply (base place : List String) :
    ofArchive base entries name content place =
      if place = base ++ [archiveName] then none
      else ((testFile? base entries place).map .bytes).or
        (if place = base ++ [name] then some (.bytes content) else none) := by
  rw [ofArchive, remove_apply, copy, write_apply]
  cases testFile? base entries place <;> rfl

/-- No test file and no script is in the way of another file. -/
structure Agree (entries : Entries) (name : String) (content : List UInt8) : Prop where
  /-- The script is not written over by the archive. -/
  script : name ≠ archiveName
  /-- No test file is written over the archive. -/
  archive : entries.file? [archiveName] = none
  /-- No test file is written over the script, unless it is the same. -/
  tests : ∀ test, entries.file? [name] = some test → test = content

/-- The two ways to upload leave the same exactly when no test file is in the way. -/
theorem Store.ofArchive_eq_ofDirectory_iff (base : List String) :
    ofArchive base entries name content = ofDirectory base entries name content ↔
      Agree entries name content := by
  rw [funext_iff]
  simp only [ofDirectory_apply, ofArchive_apply]
  constructor
  · intro same
    have script : name ≠ archiveName := by
      intro eq
      have there := same (base ++ [archiveName])
      rw [if_pos rfl, if_pos (by rw [eq])] at there
      cases there
    have apart : base ++ [archiveName] ≠ base ++ [name] := by simpa using script.symm
    refine ⟨script, ?_, fun test here => ?_⟩
    · have there := same (base ++ [archiveName])
      rw [if_pos rfl, if_neg apart, testFile?_append] at there
      exact Option.map_eq_none_iff.mp there.symm
    · have there := same (base ++ [name])
      rw [if_neg apart.symm, if_pos rfl, if_pos rfl, testFile?_append, here] at there
      exact Stored.bytes.inj (Option.some.inj there)
  · rintro ⟨script, archive, tests⟩ place
    have apart : base ++ [archiveName] ≠ base ++ [name] := by simpa using script.symm
    by_cases here : place = base ++ [archiveName]
    · rw [if_pos here, here, if_neg apart, testFile?_append, archive]
      rfl
    rw [if_neg here]
    by_cases there : place = base ++ [name]
    · rw [if_pos there, if_pos there, there, testFile?_append]
      cases found : entries.file? [name] with
      | none => rfl
      | some test => rw [tests test found]; rfl
    · rw [if_neg there, if_neg there, Option.or_none]

end Left

/-! ## Agreement -/

/-- What a provisioning leaves in a sandbox that has no files before. -/
def left {σ : Type} (backend : Backend σ) (scratch : Scratch) (fs : FileSystem)
    (strategy : UploadStrategy) (session testDir remoteDir script : String) (c : Course σ) : Store :=
  .left fs (((provisioning scratch backend.takesDirs fs strategy session testDir remoteDir
    script).talk backend c).map (·.call))

/-- **Agreement.** With a sandbox that answers success to everything and a disk on which the tests
can be packed, for all test files, every script and every remote directory:

* a provisioning succeeds by either strategy;
* as an archive it leaves every test file at its relative path except one in the place of the
  archive, and the script where no test file and no archive comes in its place;
* as a directory it leaves the script, and every test file at its relative path except one in the
  place of the script;
* both leave the same exactly when the script is not called like the archive, no test file lies in
  the place of the archive, and none in the place of the script unless it holds the same. -/
theorem strategies_agree_iff {σ : Type} (backend : Backend σ) (succeeds : backend.Succeeds)
    (scratch : Scratch) (fs : FileSystem) (session testDir remoteDir script : String) (c : Course σ)
    {entries : Entries} {content : List UInt8} (tests : fs.directory? testDir = some entries)
    (packs : (packing scratch testDir entries).isValue) (wellNamed : entries.WellNamed)
    (scoring : fs.node? script = .ok (.file content)) :
    (∀ strategy, (provision backend scratch fs strategy session testDir remoteDir script c).1 =
      .value ()) ∧
    ∃ name, Path.fileName? script = some name ∧
      (∀ place, left backend scratch fs .archive session testDir remoteDir script c place =
        if place = Path.steps remoteDir ++ [archiveName] then none
        else ((testFile? (Path.steps remoteDir) entries place).map .bytes).or
          (if place = Path.steps remoteDir ++ [name] then some (.bytes content) else none)) ∧
      (backend.takesDirs →
        ∀ place, left backend scratch fs .directory session testDir remoteDir script c place =
          if place = Path.steps remoteDir ++ [name] then some (.bytes content)
          else (testFile? (Path.steps remoteDir) entries place).map .bytes) ∧
      (left backend scratch fs .archive session testDir remoteDir script c =
          left backend scratch fs .directory session testDir remoteDir script c ↔
        (backend.takesDirs → Agree entries name content)) := by
  have does (strategy : UploadStrategy) := provisioning_does backend.takesDirs strategy session
    remoteDir tests packs scoring σ backend succeeds c
  have whole (strategy : UploadStrategy) :
      left backend scratch fs strategy session testDir remoteDir script c = Store.left fs
        (calls (effective strategy backend.takesDirs) session testDir (archive testDir entries)
          remoteDir script) :=
    congrArg (Store.left fs) (does strategy).1
  obtain ⟨name, named⟩ := Option.isSome_iff_exists.mp (FileSystem.fileName?_isSome scoring)
  have archive : left backend scratch fs .archive session testDir remoteDir script c =
      .ofArchive (Path.steps remoteDir) entries name content := by
    rw [whole, effective_archive]
    exact left_archive session testDir remoteDir scoring named wellNamed
  have directory (takes : backend.takesDirs) :
      left backend scratch fs .directory session testDir remoteDir script c =
        .ofDirectory (Path.steps remoteDir) entries name content := by
    rw [whole, takes]
    exact left_directory session remoteDir _ tests scoring named
  refine ⟨fun strategy => ?_, name, named, fun place => ?_, fun takes place => ?_, ?_⟩
  · obtain ⟨-, ⟨⟩, ending, -⟩ := does strategy
    exact ending
  · rw [archive, Store.ofArchive_apply]
  · rw [directory takes, Store.ofDirectory_apply]
  · cases takes : backend.takesDirs with
    | true =>
        rw [archive, directory takes, Store.ofArchive_eq_ofDirectory_iff]
        exact ⟨fun agree _ => agree, fun agree => agree rfl⟩
    | false =>
        have fallback : left backend scratch fs .directory session testDir remoteDir script c =
            left backend scratch fs .archive session testDir remoteDir script c := by
          rw [whole, whole, takes]
          rfl
        exact ⟨fun _ => nofun, fun _ => fallback.symm⟩

/-- Test files in nested directories, and a script that none of them is called like. -/
theorem strategies_agree_iff_nested :
    let entries : Entries :=
      .cons "config.json" (.ofText "{}")
        (.cons "nested" (.dir (.cons "run-tests.sh" (.ofText "exit 1") .nil)) .nil)
    let fs : FileSystem :=
      { root := .dir (.cons "tests" (.dir entries) (.cons "run-tests.sh" (.ofText "exit 0") .nil))
        workingDir := [] }
    (Backend.obliging true).Succeeds ∧ fs.directory? "tests" = some entries ∧ entries.WellNamed ∧
      fs.node? "run-tests.sh" = .ok (.ofText "exit 0") ∧
      left (.obliging true) .steady fs .archive "s" "tests" "/it's/" "run-tests.sh" (.begin ()) =
        left (.obliging true) .steady fs .directory "s" "tests" "/it's/" "run-tests.sh"
          (.begin ()) := by
  intro entries fs
  have tests : fs.directory? "tests" = some entries := rfl
  have packs : (packing .steady "tests" entries).isValue := by rw [packing_steady]; rfl
  have wellNamed : entries.WellNamed :=
    ⟨by decide, rfl, trivial, by decide, rfl, ⟨by decide, rfl, trivial, trivial⟩, trivial⟩
  have scoring : fs.node? "run-tests.sh" = .ok (.ofText "exit 0") := rfl
  obtain ⟨-, name, named, -, -, agree⟩ := strategies_agree_iff (.obliging true)
    (Backend.obliging_succeeds true) .steady fs "s" "tests" "/it's/" "run-tests.sh" (.begin ()) tests
    packs wellNamed scoring
  refine ⟨Backend.obliging_succeeds true, tests, wellNamed, scoring, agree.mpr fun _ => ?_⟩
  have called : Path.fileName? "run-tests.sh" = some "run-tests.sh" := by decide +kernel
  obtain rfl := Option.some.inj (called.symm.trans named)
  exact ⟨by decide, rfl, nofun⟩

/-- A test file that is called like the script. As an archive the tests are written over the script;
as a directory it is the other way around. -/
theorem test_file_over_script :
    let fs : FileSystem :=
      { root := .dir
          (.cons "tests" (.dir (.cons "run-tests.sh" (.ofText "echo from the tests") .nil))
            (.cons "run-tests.sh" (.ofText "exit 0") .nil))
        workingDir := [] }
    let left (strategy : UploadStrategy) :=
      left (.obliging true) .steady fs strategy "s" "tests" "/tests" "run-tests.sh" (.begin ())
    left .archive ["tests", "run-tests.sh"] =
        some (.bytes (Text.Utf8.encode "echo from the tests")) ∧
      left .directory ["tests", "run-tests.sh"] = some (.bytes (Text.Utf8.encode "exit 0")) ∧
      left .archive ≠ left .directory := by
  intro fs left
  have archive : left .archive ["tests", "run-tests.sh"] =
      some (.bytes (Text.Utf8.encode "echo from the tests")) := by decide +kernel
  have directory : left .directory ["tests", "run-tests.sh"] =
      some (.bytes (Text.Utf8.encode "exit 0")) := by decide +kernel
  refine ⟨archive, directory, fun same => ?_⟩
  rw [same, directory] at archive
  revert archive
  decide +kernel

end AgentTrial.Provision
