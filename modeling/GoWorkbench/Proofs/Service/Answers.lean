/-
  Running answers.

  What goes wrong when something is run is told in the answer: text that cannot be encoded, a file
  that cannot be written, a program that cannot be launched, a status other than zero.

  1. **Endings** — every ending of a program has an outcome (`outcome_ok`), and the toolchain is
     always located (`locate_ok`).
  2. **Code** — a run answers where its path can be said from the root and has no NUL, and it can be
     told whether that is in the workspace (`run_ok`).  Code without a path needs neither.  A path
     that cannot be said from the root is refused before anything is written
     (`prepareRun_refuses`).
  3. **Commands** — a command line answers where it can be said in which directory it is run
     (`runCommand_ok`).  The toolchain is asked for its variables anywhere (`report_ok`).
  4. **Answers** — all of these together (`execution_answers`).
-/
import GoWorkbench.Proofs.FileSystem.Straight
import GoWorkbench.Proofs.Service.Saving
import GoWorkbench.Proofs.Service.Writes

namespace GoWorkbench

open FileSystem

/-! ## Endings -/

/-- A program ended, or the system or a value kept it from being launched. -/
def Ending.Plain (ending : Ending) : Prop := ∀ text, ending ≠ .broken (.other text)

theorem Ending.outcome_ok {ending : Ending} (plain : ending.Plain) :
    ∃ raw error, ending.outcome = .ok (raw, error) := by
  cases ending with
  | exited status output => exact ⟨_, _, rfl⟩
  | broken how =>
    cases how with
    | system text => exact ⟨_, _, rfl⟩
    | value text => exact ⟨_, _, rfl⟩
    | other text => exact absurd rfl (plain text)

namespace Service

variable {s after : Service} {job : RunJob} {fault : Option Breach} {refusal : Option Trouble}
  {child : Launch → Service → Ending × Service}

theorem find_toolchain_ok {h : Host} (orderly : h.files.Orderly) (platform : Platform) :
    ∃ toolchain, Toolchain.find h none platform = .ok toolchain := by
  unfold Toolchain.find
  rw [Option.elim_none]
  split
  · exact ⟨_, rfl⟩
  · rename_i here working
    have no_nul : h.files.list here ≠ .error .nul :=
      list_ne_nul (no_nul_of_workingDirectory orderly.names working)
    dsimp only
    split
    · rename_i none_found
      split at none_found
      · cases none_found
      · rename_i refused
        exact absurd refused no_nul
      · cases none_found
    · split <;> exact ⟨_, rfl⟩

/-- The toolchain is located, be it by its bare name. -/
theorem locate_ok (orderly : s.host.files.Orderly) (settings : Settings) :
    ∃ toolchain, s.locate settings = .ok toolchain := by
  unfold locate Toolchain.locate
  split
  · split
    · exact find_toolchain_ok orderly s.platform
    · exact ⟨_, rfl⟩
  · exact find_toolchain_ok orderly s.platform

/-! ## Code -/

/-- Whatever is launched was a program that ended, or could not be launched. -/
def Plainly (child : Launch → Service → Ending × Service) : Prop :=
  ∀ launch launched, (child launch launched).1.Plain

/-- If anything breaks off a writing, it is the system. -/
def BySystem (fault : Option Breach) : Prop :=
  ∀ breach, fault = some breach → ∃ text, breach.how = .system text

theorem bySystem_none : BySystem none := nofun

/-- A run goes as far as an answer: what it is to write can be named and placed, and what it leaves
    can be placed. -/
structure Runnable (s : Service) (job : RunJob) (fault : Option Breach)
    (child : Launch → Service → Ending × Service) (refusal : Option Trouble) : Prop where
  path : ∀ path, job.path = some path → path ≠ "" →
    '\x00' ∉ path.toList ∧ s.host.files.Anchored path ∧
      ∀ file, s.host.files.absolute path = .ok file → s.Placeable file
  writes : BySystem fault
  plainly : Plainly child
  leaves : ∀ run launched, s.prepareRun job fault refusal = (.ok (.waiting run), launched) →
    run.isScratch = false → (child run.launch launched).2.Placeable run.file

/-- There is a directory to run a file in just if it can be told whether it is in the workspace. -/
theorem runDirectory_ok_iff {file : String} :
    (∃ directory, s.runDirectory file = .ok directory) ↔ s.Placed file := by
  unfold runDirectory Placed
  split
  · rename_i inactive
    refine iff_of_true ⟨_, rfl⟩ fun root active => ?_
    rw [inactive] at active
    cases active
  · rename_i root active
    constructor
    · rintro ⟨directory, is⟩ top again
      obtain rfl := Option.some.inj (active.symm.trans again)
      cases within : s.host.isWithin file root with
      | error e =>
        rw [within] at is
        cases is
      | ok inside => exact ⟨inside, rfl⟩
    · intro placed
      obtain ⟨inside, within⟩ := placed root active
      rw [within]
      exact ⟨_, rfl⟩

/-- A path that can be said from the root, and then placed. -/
def Located (s : Service) (path : String) : Prop :=
  ∃ file, s.host.files.absolute path = .ok file ∧ '\x00' ∉ file.toList ∧ s.Placeable file

/-- A path without a NUL, from a working directory that is there, can be said from the root. -/
theorem located {path : String} (orderly : s.host.files.Orderly)
    (named : '\x00' ∉ path.toList ∧ s.host.files.Anchored path ∧
      ∀ file, s.host.files.absolute path = .ok file → s.Placeable file) : s.Located path := by
  obtain ⟨no_nul, anchored, placeable⟩ := named
  obtain ⟨file, absolute, plain⟩ := nameable_of_anchored orderly.names no_nul anchored
  exact ⟨file, absolute, plain, placeable file absolute⟩

theorem absolute_of_files {path file : String} (h : s.host.files.absolute path = .ok file) :
    s.host.absolute path = .ok file := by
  unfold Host.absolute
  rw [h]

/-- Getting ready to run a file answers, and the file that is launched can be noted. -/
theorem prepareFile_answers {toolchain path : String} {settings : Settings} {data : List UInt8}
    (orderly : s.host.files.Orderly) (located : s.Located path) (writes : BySystem fault) :
    ∃ phase, (s.prepareFile toolchain path settings data fault).1 = .ok phase ∧
      ∀ run, phase = .waiting run →
        (s.prepareFile toolchain path settings data fault).2.Placeable run.file := by
  obtain ⟨file, absolute, no_nul, placeable⟩ := located
  unfold prepareFile
  rw [absolute_of_files absolute]
  dsimp only
  have ends := s.host.write_ends orderly file data fault
  generalize s.host.write file data fault = answer at ends ⊢
  cases ends with
  | @refused fault t refused =>
    -- The system's refusals are answered; that of a NUL is raised instead, but there is none.
    have by_system : Failure.bySystem (.refused t file) = true := by
      refine decide_eq_true fun nul : t = .nul => ?_
      rw [nul] at refused
      exact write_ne_nul no_nul refused
    dsimp only
    rw [if_pos by_system]
    exact ⟨_, rfl, nofun⟩
  | @brokenOff breach files opens begun =>
    have by_system : (Failure.interrupted breach.how).bySystem = true := by
      obtain ⟨text, how⟩ := writes breach rfl
      rw [how]
      rfl
    dsimp only
    rw [if_pos by_system]
    exact ⟨_, rfl, nofun⟩
  | @stored files written stored =>
    have placed := placeable.stored orderly stored
    obtain ⟨directory, is⟩ := runDirectory_ok_iff.mpr placed.placed
    dsimp only
    rw [is]
    refine ⟨_, rfl, ?_⟩
    rintro run ⟨⟩
    exact placed

/-- Getting ready to run code without a path answers, and what is launched is a scratch file. -/
theorem prepareScratch_answers {toolchain : String} {settings : Settings} {data : List UInt8}
    (writes : BySystem fault) :
    ∃ phase, (s.prepareScratch toolchain settings data fault refusal).1 = .ok phase ∧
      ∀ run, phase = .waiting run → run.isScratch = true := by
  unfold prepareScratch
  generalize makeScratch s.host _ maxScratchNames = made
  obtain ⟨made, host⟩ := made
  rcases made with text | file
  · exact ⟨_, rfl, nofun⟩
  · cases fault with
    | none => exact ⟨_, rfl, by rintro run ⟨⟩; rfl⟩
    | some breach =>
      obtain ⟨how, written⟩ := breach
      obtain ⟨text, rfl⟩ : ∃ text, how = .system text := writes _ rfl
      exact ⟨_, rfl, nofun⟩

/-- The first phase of a run ends with an answer, or with a launch to be made. -/
theorem prepareRun_answers (orderly : s.host.files.Orderly)
    (named : ∀ path, job.path = some path → path ≠ "" → s.Located path)
    (writes : BySystem fault) :
    ∃ phase, (s.prepareRun job fault refusal).1 = .ok phase ∧
      ∀ run, phase = .waiting run → run.isScratch = false →
        (s.prepareRun job fault refusal).2.Placeable run.file := by
  obtain ⟨toolchain, located⟩ := locate_ok orderly job.settings
  unfold prepareRun
  dsimp only
  rw [located]
  dsimp only
  split
  · exact ⟨_, rfl, nofun⟩
  · exact ⟨_, rfl, nofun⟩
  · rename_i data path encodes given
    obtain ⟨given, some_path⟩ := Option.filter_eq_some_iff.mp given
    obtain ⟨phase, is, noted⟩ := prepareFile_answers orderly
      (named path given fun h => by simp [h] at some_path) writes
    exact ⟨phase, is, fun run h _ => noted run h⟩
  · obtain ⟨phase, is, scratch⟩ := @prepareScratch_answers s fault refusal _ _ _ writes
    refine ⟨phase, is, fun run h plain => ?_⟩
    rw [scratch run h] at plain
    cases plain

/-- The second phase of a run ends with an answer. -/
theorem finishRun_answers {run : PendingRun} {ending : Ending} (plain : ending.Plain)
    (noted : run.isScratch = false → s.Placed run.file) :
    ∃ r, (s.finishRun run ending refusal).1 = .ok r := by
  obtain ⟨raw, error, outcome⟩ := Ending.outcome_ok plain
  have keeps := settleRun_keeps s run ending refusal
  have files : run.isScratch = false →
      (s.settleRun run ending refusal).host.files = s.host.files :=
    fun plain => settleRun_files plain ending refusal
  unfold finishRun
  rw [outcome]
  dsimp only
  generalize s.settleRun run ending refusal = settled at keeps files ⊢
  by_cases scratch : run.isScratch = true
  · rw [if_pos scratch]
    exact ⟨_, rfl⟩
  · rw [if_neg scratch]
    have same := files (Bool.eq_false_iff.mpr scratch)
    have placed : settled.Placed run.file := fun root active => by
      obtain ⟨inside, within⟩ :=
        noted (Bool.eq_false_iff.mpr scratch) root (keeps.workspace.symm.trans active)
      refine ⟨inside, ?_⟩
      unfold Host.isWithin at within ⊢
      rw [same]
      exact within
    obtain ⟨due, is⟩ := noteWritten_ok placed
    rw [show settled.noteWritten run.file = (.ok due, (settled.noteWritten run.file).2) from
      Prod.ext is rfl]
    exact ⟨_, rfl⟩

/-- What a child leaves that changes nothing can be noted. -/
theorem leaves_of_idle (orderly : s.host.files.Orderly)
    (named : ∀ path, job.path = some path → path ≠ "" → s.Located path)
    (writes : BySystem fault) {run : PendingRun} {launched : Service}
    (waits : s.prepareRun job fault refusal = (.ok (.waiting run), launched))
    (plain : run.isScratch = false) : launched.Placeable run.file := by
  obtain ⟨phase, prepared, noted⟩ := @prepareRun_answers s job fault refusal orderly named writes
  rw [waits] at prepared noted
  exact noted run (Except.ok.inj prepared).symm plain

theorem Runnable.of_idle (orderly : s.host.files.Orderly)
    (named : ∀ path, job.path = some path → path ≠ "" →
      '\x00' ∉ path.toList ∧ s.host.files.Anchored path ∧
        ∀ file, s.host.files.absolute path = .ok file → s.Placeable file)
    (writes : BySystem fault) {ending : Ending} (plain : ending.Plain) :
    s.Runnable job fault (fun _ launched => (ending, launched)) refusal where
  path := named
  writes := writes
  plainly := fun _ _ => plain
  leaves := fun _ _ waits scratch => leaves_of_idle orderly
    (fun path given some_path => located orderly (named path given some_path)) writes waits scratch

/-- A run answers if its path can be named, and what its child leaves can be noted. -/
theorem run_answers (orderly : s.host.files.Orderly)
    (named : ∀ path, job.path = some path → path ≠ "" → s.Located path)
    (writes : BySystem fault) (plainly : Plainly child)
    (leaves : ∀ run launched, s.prepareRun job fault refusal = (.ok (.waiting run), launched) →
      run.isScratch = false → (child run.launch launched).2.Placeable run.file) :
    ∃ r, (s.run job fault child refusal).1 = .ok r := by
  obtain ⟨phase, prepared, -⟩ := @prepareRun_answers s job fault refusal orderly named writes
  unfold run
  generalize s.prepareRun job fault refusal = first at prepared leaves
  obtain ⟨phase', launched⟩ := first
  obtain rfl : phase' = .ok phase := prepared
  cases phase with
  | answered r => exact ⟨r, rfl⟩
  | waiting run =>
    exact finishRun_answers (plainly _ _) fun plain => (leaves run launched rfl plain).placed

/-- **Code**: a run answers. -/
theorem run_ok (orderly : s.host.files.Orderly) (runnable : s.Runnable job fault child refusal) :
    ∃ r, (s.run job fault child refusal).1 = .ok r :=
  run_answers orderly
    (fun path given some_path => located orderly (runnable.path path given some_path))
    runnable.writes runnable.plainly runnable.leaves

/-- A path that cannot be named is refused. -/
theorem prepareRun_refuses {path : String} {data : List UInt8} (orderly : s.host.files.Orderly)
    (encodes : job.code.encode = .ok data) (given : job.path = some path) (some_path : path ≠ "")
    (unnameable : ¬ s.host.files.Nameable path) :
    ∃ e, s.prepareRun job fault refusal = (.error (.badPath e), s) := by
  obtain ⟨toolchain, located⟩ := locate_ok orderly job.settings
  rw [prepareRun_of_path located encodes given some_path]
  unfold prepareFile Host.absolute
  cases absolute : s.host.files.absolute path with
  | error t => exact ⟨_, rfl⟩
  | ok file =>
    have nul : '\x00' ∈ file.toList := by
      by_contra no_nul
      exact unnameable ⟨file, absolute, no_nul⟩
    dsimp only
    rw [Host.write_of_error (write_of_nul nul)]
    exact ⟨_, rfl⟩

/-- The path can be written to, and then it cannot be told whether the file is in the workspace,
    because links lead around in a circle. -/
def Circles (s : Service) (path : String) (data : List UInt8) (stuck : String) : Prop :=
  ∃ file files root, s.host.files.absolute path = .ok file ∧
    s.host.files.write file data = .ok files ∧
    s.workspace = some root ∧ files.isWithin file root = .error (.circle stuck)

/-- What the first phase of a run comes to whose code can be encoded and is written without a
    break. -/
inductive Prepares (s : Service) (job : RunJob) (data : List UInt8) :
    Answer (Phase RunResult PendingRun) → Prop
  | ready {phase : Phase RunResult PendingRun} {after : Service}
      (named : ∀ path, job.path = some path → path ≠ "" → s.host.files.Nameable path) :
      Prepares s job data (.ok phase, after)
  | unnamed {path : String} {e : PathError} (given : job.path = some path) (some_path : path ≠ "")
      (unnameable : ¬ s.host.files.Nameable path) : Prepares s job data (.error (.badPath e), s)
  | circle {path stuck : String} {after : Service} (given : job.path = some path)
      (some_path : path ≠ "") (circles : s.Circles path data stuck) :
      Prepares s job data (.error (.circle stuck), after)

/-- A circle makes the first phase of a run fail once its file has been written. -/
theorem prepareRun_of_circles {path stuck : String} {data : List UInt8}
    (orderly : s.host.files.Orderly) (encodes : job.code.encode = .ok data)
    (given : job.path = some path) (some_path : path ≠ "") (circles : s.Circles path data stuck) :
    ∃ after, s.prepareRun job none refusal = (.error (.circle stuck), after) := by
  obtain ⟨toolchain, located⟩ := locate_ok orderly job.settings
  obtain ⟨file, files, root, absolute, written, active, within⟩ := circles
  rw [prepareRun_of_path located encodes given some_path]
  unfold prepareFile
  rw [absolute_of_files absolute]
  dsimp only
  rw [Host.write_of_ok written]
  dsimp only
  unfold runDirectory Host.isWithin
  dsimp only
  rw [active]
  dsimp only
  rw [within]
  exact ⟨_, rfl⟩

/-- Only a circle leaves a file without a directory to run it in. -/
theorem runDirectory_error {file : String} {f : Failure} (no_nul : '\x00' ∉ file.toList)
    (plain : ∀ root, s.workspace = some root → '\x00' ∉ root.toList)
    (failed : s.runDirectory file = .error f) : ∃ root stuck, s.workspace = some root ∧
      s.host.files.isWithin file root = .error (.circle stuck) ∧ f = .circle stuck := by
  unfold runDirectory Host.isWithin at failed
  split at failed
  · cases failed
  · rename_i root active
    rcases within : s.host.files.isWithin file root with e | inside
    · obtain ⟨stuck, rfl⟩ := circle_of_isWithin no_nul (plain root active) within
      rw [within] at failed
      exact ⟨root, stuck, active, within, (Except.error.inj failed).symm⟩
    · rw [within] at failed
      cases failed

/-- A file that can be named is written, or that fails with an answer; only then can a circle be
    met. -/
theorem prepareFile_error {toolchain path : String} {settings : Settings} {data : List UInt8}
    {f : Failure} (nameable : s.host.files.Nameable path)
    (plain : ∀ root, s.workspace = some root → '\x00' ∉ root.toList)
    (failed : s.prepareFile toolchain path settings data none = (.error f, after)) :
    ∃ stuck, f = .circle stuck ∧ s.Circles path data stuck := by
  obtain ⟨file, absolute, no_nul⟩ := nameable
  unfold prepareFile at failed
  rw [absolute_of_files absolute] at failed
  dsimp only at failed
  rcases written : s.host.files.write file data with t | files
  · have by_system : Failure.bySystem (.refused t file) = true :=
      decide_eq_true fun nul : t = .nul => write_ne_nul no_nul (nul ▸ written)
    rw [Host.write_of_error written] at failed
    dsimp only at failed
    rw [if_pos by_system] at failed
    cases failed
  · rw [Host.write_of_ok written] at failed
    dsimp only at failed
    split at failed
    · rename_i e unplaced
      cases failed
      obtain ⟨root, stuck, active, within, rfl⟩ :=
        @runDirectory_error { s with host := { s.host with files } } _ _ no_nul plain unplaced
      exact ⟨stuck, rfl, file, files, root, absolute, written, active, within⟩
    · cases failed

/-- The first phase of such a run fails only if its path cannot be named, or for a circle. -/
theorem prepareRun_prepares {data : List UInt8} (orderly : s.host.files.Orderly)
    (encodes : job.code.encode = .ok data)
    (plain : ∀ root, s.workspace = some root → '\x00' ∉ root.toList) :
    Prepares s job data (s.prepareRun job none refusal) := by
  obtain ⟨toolchain, located⟩ := locate_ok orderly job.settings
  cases given : job.path.filter fun p => !p.isEmpty with
  | none =>
    have unnamed : ∀ path, job.path = some path → path ≠ "" → s.host.files.Nameable path := by
      intro path is some_path
      rw [path_kept is some_path] at given
      cases given
    have scratch : s.prepareRun job none refusal =
        s.prepareScratch toolchain (s.withRoot job.settings) data none refusal := by
      unfold prepareRun
      dsimp only
      rw [located, encodes, given]
    obtain ⟨phase, is, -⟩ := @prepareScratch_answers s none refusal toolchain
      (s.withRoot job.settings) data bySystem_none
    rw [scratch]
    generalize s.prepareScratch toolchain (s.withRoot job.settings) data none refusal = prepared
      at is ⊢
    obtain ⟨_, after⟩ := prepared
    obtain rfl := is
    exact .ready unnamed
  | some path =>
    obtain ⟨given, some_path⟩ := Option.filter_eq_some_iff.mp given
    replace some_path : path ≠ "" := fun h => by simp [h] at some_path
    by_cases nameable : s.host.files.Nameable path
    · rw [prepareRun_of_path located encodes given some_path]
      rcases prepared : s.prepareFile toolchain path (s.withRoot job.settings) data none with
        ⟨f | phase, after⟩
      · obtain ⟨stuck, rfl, circles⟩ := prepareFile_error nameable plain prepared
        exact .circle given some_path circles
      · refine .ready fun other is _ => ?_
        obtain rfl := Option.some.inj (given.symm.trans is)
        exact nameable
    · obtain ⟨e, refused⟩ :=
        @prepareRun_refuses s job none refusal path data orderly encodes given some_path nameable
      rw [refused]
      exact .unnamed given some_path nameable

/-! ## Commands -/

theorem commandWords_ok {line : String} (some_word : ¬ (Text.words line).isEmpty = true)
    (toolchain : String) (platform : Platform) :
    ∃ words, commandWords line toolchain platform = .ok words := by
  unfold commandWords
  split
  · rename_i none
    exact absurd (by rw [none]; rfl) some_word
  · split
    · exact ⟨_, rfl⟩
    · split <;> exact ⟨_, rfl⟩

/-- The first phase of a command ends with an answer, or with a launch to be made. -/
theorem prepareCommand_answers {job : CommandJob} (orderly : s.host.files.Orderly)
    (somewhere : s.workspace = none → s.host.files.current.gone = 0) :
    ∃ phase, (s.prepareCommand job).1 = .ok phase := by
  obtain ⟨toolchain, located⟩ := locate_ok orderly job.settings
  unfold prepareCommand
  split
  · exact ⟨_, rfl⟩
  · rename_i some_word
    obtain ⟨words, is_words⟩ := commandWords_ok some_word toolchain s.platform
    dsimp only
    rw [located]
    dsimp only [bind, Except.bind]
    rw [is_words]
    dsimp only
    cases active : s.workspace with
    | some root => exact ⟨_, rfl⟩
    | none =>
      unfold FileSystem.workingDirectory
      rw [somewhere active]
      exact ⟨_, rfl⟩

/-- What has come as far as a launch goes on to an answer. -/
theorem runCommand_answers {job : CommandJob} {phase : Phase RunResult Launch}
    (prepared : (s.prepareCommand job).1 = .ok phase) (plainly : Plainly child) :
    ∃ r, (s.runCommand job child).1 = .ok r := by
  unfold runCommand
  generalize s.prepareCommand job = first at prepared ⊢
  obtain ⟨phase', launched⟩ := first
  obtain rfl : phase' = .ok phase := prepared
  cases phase with
  | answered r => exact ⟨r, rfl⟩
  | waiting launch =>
    obtain ⟨raw, error, outcome⟩ := Ending.outcome_ok (plainly launch launched)
    show ∃ r, ((child launch launched).2.finishCommand launch (child launch launched).1).1 = .ok r
    unfold finishCommand
    rw [outcome]
    exact ⟨_, rfl⟩

/-- **Commands**: a command line answers where there is a directory to run it in. -/
theorem runCommand_ok {job : CommandJob} (orderly : s.host.files.Orderly)
    (somewhere : s.workspace = none → s.host.files.current.gone = 0) (plainly : Plainly child) :
    ∃ r, (s.runCommand job child).1 = .ok r := by
  obtain ⟨phase, prepared⟩ : ∃ phase, (s.prepareCommand job).1 = .ok phase :=
    prepareCommand_answers orderly somewhere
  exact runCommand_answers prepared plainly

/-- The toolchain answers what its variables are. -/
theorem report_ok {root : Option String} (orderly : s.host.files.Orderly)
    (plainly : Plainly child) : ∃ r, (s.report root child).1 = .ok r := by
  obtain ⟨toolchain, located⟩ := locate_ok orderly (rootSettings root)
  unfold report prepareReport
  dsimp only
  rw [located]
  dsimp only
  obtain ⟨raw, error, outcome⟩ := Ending.outcome_ok (plainly _ _)
  unfold finishReport
  rw [outcome]
  exact ⟨_, rfl⟩

/-! ## Answers -/

/-- **Answers**: code, commands and questions to the toolchain are answered. -/
theorem execution_answers (orderly : s.host.files.Orderly) :
    (∀ job fault child refusal, s.Runnable job fault child refusal →
        ∃ r, (s.run job fault child refusal).1 = .ok r) ∧
      (∀ job child, (s.workspace = none → s.host.files.current.gone = 0) → Plainly child →
        ∃ r, (s.runCommand job child).1 = .ok r) ∧
      ∀ root child, Plainly child → ∃ r, (s.report root child).1 = .ok r :=
  ⟨fun _ _ _ _ runnable => run_ok orderly runnable,
    fun _ _ somewhere plainly => runCommand_ok orderly somewhere plainly,
    fun _ _ plainly => report_ok orderly plainly⟩

/-- Code that is run, with the toolchain named. -/
def jobAt (path : Option String) : RunJob := ⟨⟨[120]⟩, path, [("GOROOT", "/go")]⟩

/-- A program that ends with an error and changes nothing. -/
def failing (_ : Launch) (s : Service) : Ending × Service := (.exited 1 [], s)

theorem plainly_failing : Plainly failing := fun _ _ _ h => nomatch h

theorem runnable_over_file :
    (serving oneFile).Runnable (jobAt (some "/w/a.go")) none failing none := by
  show (serving oneFile).Runnable _ none (fun _ launched => (.exited 1 [], launched)) none
  refine .of_idle orderly_oneFile ?_ bySystem_none
    (plainly_failing ⟨[], none, []⟩ (serving oneFile))
  rintro path ⟨⟩ -
  refine ⟨by decide, Or.inl (by decide), ?_⟩
  rintro file ⟨⟩
  exact placeable_oneFile

theorem execution_answers_over_file : oneFile.Orderly ∧
    (∃ r, ((serving oneFile).run (jobAt (some "/w/a.go")) none failing).1 = .ok r) ∧
    (∃ r, ((serving oneFile).runCommand ⟨"go version", []⟩ failing).1 = .ok r) ∧
    ∃ r, ((serving oneFile).report none failing).1 = .ok r := by
  obtain ⟨code, commands, toolchain⟩ := execution_answers (s := serving oneFile) orderly_oneFile
  exact ⟨orderly_oneFile, code _ _ _ _ runnable_over_file,
    commands _ _ (fun h => nomatch h) plainly_failing, toolchain _ _ plainly_failing⟩

/-- The working directory has been removed. -/
def adriftFiles : FileSystem := ⟨[("w", .directory [])], ⟨["w", "d"], 1⟩⟩

/-- The workspace is a link that leads to itself, with something beside it. -/
def circleFiles (beside : List (String × Entry)) : FileSystem :=
  ⟨[("w", .link "/w"), ("o", .directory beside)], .root⟩

theorem locate_over (files : FileSystem) :
    (serving files).locate [("GOROOT", "/go")] = .ok "/go/bin/go" := rfl

theorem run_fails_for_nul : ((serving oneFile).run (jobAt (some "/w/a\x00.go")) none failing).1 =
    .error (.refused .nul "/w/a\x00.go") := by
  have absolute : (serving oneFile).host.absolute "/w/a\x00.go" = .ok "/w/a\x00.go" := rfl
  have refuses : (serving oneFile).host.files.write "/w/a\x00.go" [120] = .error .nul := by
    unfold FileSystem.write FileSystem.reach
    rw [if_pos (by decide)]
  unfold run
  rw [prepareRun_of_path (locate_over _) encode_x rfl (by decide)]
  unfold prepareFile
  rw [absolute]
  dsimp only
  rw [Host.write_of_error refuses]
  rfl

theorem run_fails_adrift : ((serving adriftFiles).run (jobAt (some "a.go")) none failing).1 =
    .error (.adrift .missing) := by
  have absolute : (serving adriftFiles).host.absolute "a.go" = .error (.adrift .missing) := rfl
  unfold run
  rw [prepareRun_of_path (locate_over _) encode_x rfl (by decide)]
  unfold prepareFile
  rw [absolute]

theorem runCommand_fails_adrift :
    (({ serving adriftFiles with workspace := none } : Service).runCommand
      ⟨"go version", [("GOROOT", "/go")]⟩ failing).1 = .error (.adrift .missing) := by
  have some_word : ¬ (Text.words "go version").isEmpty = true := by decide
  have line : commandWords "go version" "/go/bin/go" (serving adriftFiles).platform =
    .ok ["/go/bin/go", "version"] := rfl
  have located : ({ serving adriftFiles with workspace := none } : Service).locate
    [("GOROOT", "/go")] = .ok "/go/bin/go" := rfl
  unfold runCommand prepareCommand
  rw [if_neg some_word]
  dsimp only
  rw [located]
  dsimp only [bind, Except.bind]
  rw [line]
  rfl

theorem walk_circle (beside : List (String × Entry)) (links : Nat) (rest : List String) :
    (circleFiles beside).walk .look false links .root ("w" :: rest) = .error .loop := by
  have naming : Naming "w" := ⟨by decide, by decide, by decide⟩
  have found : Entry.child? "w" ((circleFiles beside).entriesAt .root) = some (.link "/w") := rfl
  induction links with
  | zero =>
    rw [walk, if_neg (by decide), if_neg (by decide), if_neg (by simp), if_neg (by decide), found]
    simp
  | succ links ih =>
    rw [ByName.walk_link ⟨naming, by simp⟩ found (by simp), show endsInSlash "/w" = false from rfl,
      Bool.and_false, Bool.or_false]
    exact ih

theorem settle_circle (beside : List (String × Entry)) (links : Nat) (rest : List String) :
    (circleFiles beside).settle (links + 1) [] ⟨true, []⟩ ("" :: "w" :: rest) =
      (Reached.stop ⟨true, ["w"]⟩ rest, false) := by
  have met : (circleFiles beside).entryOf ((Reached.push ⟨true, []⟩ "").push "w") =
    some (.link "/w") := rfl
  have again : (circleFiles beside).settle links [⟨true, ["w"]⟩] ⟨true, []⟩ ["", "w"] =
      (⟨true, ["w"]⟩, false) := by
    rw [settle, if_pos (by decide), settle, if_neg (by decide), met]
    exact if_pos (by decide)
  rw [settle, if_pos (by decide), settle, if_neg (by decide), met]
  dsimp only
  rw [if_neg (by decide), if_pos (by decide),
    show (Reached.push ⟨true, []⟩ "").push "w" = ⟨true, ["w"]⟩ from rfl,
    show Path.parts "/w" = ["", "w"] from rfl, again]

theorem nesting_circle (beside : List (String × Entry)) :
    (circleFiles beside).nesting = (2 * countLinks beside + 1) + 1 := by
  simp only [nesting, circleFiles, countLinks, Place.root, List.length_nil]
  omega

theorem canonicalNames_circle (beside : List (String × Entry)) :
    (circleFiles beside).canonicalNames "/w" = .error (.circle "/w") := by
  have looped : (circleFiles beside).find "/w" = .error .loop := by
    unfold FileSystem.find
    rw [reach_of_passable (by decide) (by decide) (by decide), if_pos (by decide),
      show components "/w" = ["w"] from rfl, show endsInSlash "/w" = false from rfl, walk_circle]
  unfold canonicalNames
  rw [if_neg (by decide), nesting_circle, show Path.parts "/w" = ["", "w"] from rfl,
    show Path.isAbsolute "/w" = true from rfl, settle_circle,
    show Reached.stop ⟨true, ["w"]⟩ [] = ⟨true, ["w"]⟩ from rfl]
  dsimp only
  rw [Bool.not_true, Bool.false_and, if_neg Bool.false_ne_true, if_pos rfl,
    show "/" ++ Path.slashed (Path.collapse true ([] ++ ["w"].reverse)) = "/w" from rfl, looped]

theorem run_fails_in_circle :
    ((serving (circleFiles [])).run (jobAt (some "/o/a.go")) none failing).1 =
      .error (.circle "/w") := by
  have absolute : (serving (circleFiles [])).host.absolute "/o/a.go" = .ok "/o/a.go" := rfl
  have leads : LeadsTo "/o/a.go" (["o"] ++ ["a.go"]) := ⟨rfl, rfl, by decide⟩
  have writes : (serving (circleFiles [])).host.files.write "/o/a.go" [120] =
      .ok (circleFiles [("a.go", .file [120] false)]) :=
    leads.write_vacant (leads.passable (by decide) (by decide)) (by decide) ⟨[], rfl⟩ rfl [120]
  have within : (circleFiles [("a.go", .file [120] false)]).isWithin "/o/a.go" "/w" =
      .error (.circle "/w") := by
    unfold isWithin
    rw [show Path.plain "/w" = "/w" from rfl, canonicalNames_circle]
    rfl
  unfold run
  rw [prepareRun_of_path (locate_over _) encode_x rfl (by decide)]
  unfold prepareFile
  rw [absolute]
  dsimp only
  rw [Host.write_of_ok writes]
  unfold runDirectory Host.isWithin
  dsimp only [serving]
  rw [within]
  rfl

/-- No answer is given for a path with a NUL, nor for a relative path or a command without a
    workspace in a working directory that is gone, nor where the workspace leads around in a
    circle. -/
theorem execution_fails :
    ((serving oneFile).run (jobAt (some "/w/a\x00.go")) none failing).1 =
        .error (.refused .nul "/w/a\x00.go") ∧
      ((serving adriftFiles).run (jobAt (some "a.go")) none failing).1 = .error (.adrift .missing) ∧
      (({ serving adriftFiles with workspace := none } : Service).runCommand
        ⟨"go version", [("GOROOT", "/go")]⟩ failing).1 = .error (.adrift .missing) ∧
      ((serving (circleFiles [])).run (jobAt (some "/o/a.go")) none failing).1 =
        .error (.circle "/w") :=
  ⟨run_fails_for_nul, run_fails_adrift, runCommand_fails_adrift, run_fails_in_circle⟩

end Service

end GoWorkbench
