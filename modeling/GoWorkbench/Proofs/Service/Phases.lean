/-
  A run, phase by phase.

  Running code stores it in a file, launches a child, reports how the child ended, cleans up, and
  answers.  Each of these is a step of its own, with the state it finds and the state it leaves, so
  that other things can be told to happen between them.

  1. **Setup** — what a service has been set up with: no phase changes that (`SameSetup`).
  2. **Storing** — code is stored in a file or a scratch file, or no file is changed, or the writing
     of a file is broken off (`store_stores`).  A scratch file that cannot be filled is abandoned.
  3. **Launching** — the child gets the file it runs as its second argument.
  4. **Ending** — reporting, cleaning up, and the answer.
  5. **In one piece** — what happens before the child and after it is put together from these
     (`prepareRun_eq`, `finishRun_eq`), so a run that waits for its child has located its toolchain
     (`prepareRun_launch`), and with other settings it would have come as far
     (`prepareRun_resettled`).
  6. **Commands** — a command line has nothing to store (`prepareCommand_eq`), and is refused only
     where there is no place for it (`prepareCommand_cases`).
-/
import GoWorkbench.Proofs.Service.Answers

namespace GoWorkbench

open FileSystem (Stored stored_of_write)

namespace Service

variable {s after between : Service} {job : RunJob} {fault : Option Breach}
  {refusal : Option Trouble} {path file toolchain : String} {data : List UInt8}
  {settings : Settings} {run : PendingRun} {ending : Ending}

/-! ## Setup -/

/-- Two states of a service that has been set up once. -/
structure SameSetup (s after : Service) : Prop where
  config : after.config = s.config
  platform : after.platform = s.platform
  environment : after.host.environment = s.host.environment
  temporary : after.host.temporary = s.host.temporary

theorem SameSetup.refl (s : Service) : SameSetup s s := ⟨rfl, rfl, rfl, rfl⟩

theorem SameSetup.trans (h : SameSetup s between) (h' : SameSetup between after) :
    SameSetup s after where
  config := h'.config.trans h.config
  platform := h'.platform.trans h.platform
  environment := h'.environment.trans h.environment
  temporary := h'.temporary.trans h.temporary

/-- The configured root depends on the setup only. -/
theorem SameSetup.withRoot (h : SameSetup s after) (settings : Settings) :
    after.withRoot settings = s.withRoot settings := by
  unfold Service.withRoot
  rw [h.config]

/-- And so do the variables of a child. -/
theorem SameSetup.childVariables (h : SameSetup s after) (settings : Settings) :
    childVariables after.host settings = childVariables s.host settings := by
  unfold GoWorkbench.childVariables
  rw [h.environment]

theorem schedule_setup (s : Service) (root : String) : SameSetup s (s.schedule root) := by
  have host : (s.schedule root).host.environment = s.host.environment ∧
      (s.schedule root).host.temporary = s.host.temporary := by
    unfold schedule SymbolIndex.rebuildUnattended SymbolIndex.rebuild
    dsimp only
    split <;> rename_i same <;> split at same <;> cases same <;> exact ⟨rfl, rfl⟩
  exact ⟨rfl, rfl, host.1, host.2⟩

theorem noteWritten_setup (s : Service) (path : String) :
    SameSetup s (s.noteWritten path).2 := by
  unfold noteWritten
  split
  · exact .refl s
  · exact .refl s
  · exact schedule_setup s _

theorem reportEnding_setup (s : Service) (program : String) (ending : Ending) :
    SameSetup s (s.reportEnding program ending) := by
  unfold reportEnding
  split
  · exact ⟨rfl, rfl, rfl, rfl⟩
  · exact .refl s

theorem removeScratch_setup (s : Service) (path : String) (refusal : Option Trouble) :
    SameSetup s (s.removeScratch path refusal) := by
  unfold removeScratch
  split
  · exact ⟨rfl, rfl, rfl, rfl⟩
  · exact .refl s
  · exact ⟨rfl, rfl, rfl, rfl⟩

theorem makeScratch_setup (h : Host) (data : List UInt8) (tries : Nat) :
    (makeScratch h data tries).2.environment = h.environment ∧
      (makeScratch h data tries).2.temporary = h.temporary := by
  induction tries generalizing h with
  | zero => exact ⟨rfl, rfl⟩
  | succ tries ih =>
    rw [makeScratch]
    dsimp only
    split
    · exact ⟨rfl, rfl⟩
    · exact ih { h with scratchNames := h.scratchNames + 1 }
    · exact ⟨rfl, rfl⟩

/-! ## Storing -/

/-- The file that code has been stored in. -/
structure Source where
  file : String
  /-- It is a scratch file. -/
  isScratch : Bool

/-- The answer of a run that could not write its file. -/
def unsaved (why : String) : RunResult :=
  { error := some s!"Failed to save file before running: {why}" }

/-- The answer of a run that could not make a scratch file. -/
def unmade (why : String) : RunResult :=
  { error := some s!"Failed to create temp file: {why}" }

/-- Writes code to the file of its path. -/
def storeFile (s : Service) (path : String) (data : List UInt8) (fault : Option Breach) :
    Answer (Phase RunResult Source) :=
  match s.host.absolute path with
  | .error e => (.error e, s)
  | .ok file => match s.host.write file data fault with
    | (.ok (), host) => (.ok (.waiting ⟨file, false⟩), { s with host })
    | (.error e, host) =>
      if e.bySystem then (.ok (.answered (unsaved (e.message.getD ""))), { s with host })
      else (.error e, { s with host })

/-- Writes code to a scratch file. -/
def storeScratch (s : Service) (data : List UInt8) : Answer (Phase RunResult Source) :=
  let (made, host) := makeScratch s.host data maxScratchNames
  match made with
  | .error why => (.ok (.answered (unmade why)), { s with host })
  | .ok file => (.ok (.waiting ⟨file, true⟩), { s with host })

/-- Stores the code of a job, if it can be encoded. -/
def store (s : Service) (job : RunJob) (fault : Option Breach) :
    Answer (Phase RunResult Source) :=
  match job.code.encode, job.path.filter fun p => !p.isEmpty with
  | .error u, some _ => (.ok (.answered (unsaved u.message)), s)
  | .error u, none => (.ok (.answered (unmade u.message)), s)
  | .ok data, some path => s.storeFile path data fault
  | .ok data, none => s.storeScratch (Breach.kept fault data)

/-- The writing of a scratch file has been broken off, so the file goes at once. -/
def abandon (s : Service) (file : String) (refusal : Option Trouble) :
    Interruption → Answer RunResult
  | .system why => (.ok (unmade why), s.removeScratch file refusal)
  | how => (.error (.interrupted how), s.removeScratch file refusal)

/-- Storing depends on the code and its path only. -/
theorem store_resettled (s : Service) (job : RunJob) (fault : Option Breach)
    (settings : Settings) : s.store { job with settings } fault = s.store job fault := rfl

theorem storeFile_setup (s : Service) (path : String) (data : List UInt8)
    (fault : Option Breach) : SameSetup s (s.storeFile path data fault).2 := by
  unfold storeFile
  split
  · exact .refl s
  · rename_i file _
    rcases s.host.write_cases file data fault with ⟨t, -, is⟩ | ⟨files, -, is⟩ <;> rw [is]
    · dsimp only
      split <;> exact .refl s
    · cases fault with
      | none => exact ⟨rfl, rfl, rfl, rfl⟩
      | some breach =>
        dsimp only
        split <;> exact ⟨rfl, rfl, rfl, rfl⟩

theorem storeScratch_setup (s : Service) (data : List UInt8) :
    SameSetup s (s.storeScratch data).2 := by
  obtain ⟨environment, temporary⟩ := makeScratch_setup s.host data maxScratchNames
  unfold storeScratch
  generalize makeScratch s.host data maxScratchNames = made at environment temporary ⊢
  obtain ⟨made, host⟩ := made
  cases made with
  | error why => exact ⟨rfl, rfl, environment, temporary⟩
  | ok file => exact ⟨rfl, rfl, environment, temporary⟩

theorem store_setup (s : Service) (job : RunJob) (fault : Option Breach) :
    SameSetup s (s.store job fault).2 := by
  unfold store
  split
  · exact .refl s
  · exact .refl s
  · exact storeFile_setup s _ _ _
  · exact storeScratch_setup s _

/-- The answer of a run that has not stored its code. -/
def unstored (job : RunJob) (why : String) : RunResult :=
  match job.path.filter fun p => !p.isEmpty with
  | some _ => unsaved why
  | none => unmade why

/-- What a run that has not stored its code answers: the code cannot be encoded, or the system has
    refused to store it, or has broken that off. -/
inductive Unstored (job : RunJob) : RunResult → Prop
  | code {u : Text.CodePoints.Unencodable} (fails : job.code.encode = .error u) :
      Unstored job (unstored job u.message)
  | system {data : List UInt8} (encodes : job.code.encode = .ok data) (why : String) :
      Unstored job (unstored job why)

/-- What storing the code of a job comes to. -/
inductive Stores (s : Service) (job : RunJob) :
    Option Breach → Answer (Phase RunResult Source) → Prop
  | file {path file : String} {data : List UInt8} {after : Service}
      (given : (job.path.filter fun p => !p.isEmpty) = some path)
      (encodes : job.code.encode = .ok data) (absolute : s.host.files.absolute path = .ok file)
      (written : s.host.files.write file data = .ok after.host.files) :
      Stores s job none (.ok (.waiting ⟨file, false⟩), after)
  | scratch {fault : Option Breach} {n : Nat} {data : List UInt8} {after : Service}
      (needed : needsScratch job) (encodes : job.code.encode = .ok data)
      (created : s.host.files.createNew (scratchPath s.host.temporary n) (Breach.kept fault data) =
        .ok after.host.files) :
      Stores s job fault
        (.ok (.waiting ⟨Path.normalize (scratchPath s.host.temporary n), true⟩), after)
  | declined {fault : Option Breach} {result : RunResult} {after : Service}
      (unstored : Unstored job result) (same : after.host.files = s.host.files) :
      Stores s job fault (.ok (.answered result), after)
  | failed {fault : Option Breach} {e : Failure} {after : Service}
      (same : after.host.files = s.host.files) : Stores s job fault (.error e, after)
  /-- The system has broken off the writing of a file. -/
  | brokenOff {path file : String} {data : List UInt8} {breach : Breach} {result : RunResult}
      {after : Service} (given : (job.path.filter fun p => !p.isEmpty) = some path)
      (encodes : job.code.encode = .ok data) (absolute : s.host.files.absolute path = .ok file)
      (begun : s.host.files.write file (data.take breach.written) = .ok after.host.files)
      (unstored : Unstored job result) :
      Stores s job (some breach) (.ok (.answered result), after)
  /-- Something else has. -/
  | interrupted {path file : String} {data : List UInt8} {breach : Breach} {e : Failure}
      {after : Service} (given : (job.path.filter fun p => !p.isEmpty) = some path)
      (encodes : job.code.encode = .ok data) (absolute : s.host.files.absolute path = .ok file)
      (begun : s.host.files.write file (data.take breach.written) = .ok after.host.files) :
      Stores s job (some breach) (.error e, after)

/-- **Storing** puts the code into one file, or a beginning of it, or changes none. -/
theorem store_stores (s : Service) (job : RunJob) (fault : Option Breach) :
    Stores s job fault (s.store job fault) := by
  unfold store
  cases encodes : job.code.encode with
  | error u =>
    -- A text that cannot be encoded is declined before any file is opened.
    have unstored := Unstored.code encodes
    unfold Service.unstored at unstored
    cases given : job.path.filter fun p => !p.isEmpty with
    | some path =>
      rw [given] at unstored
      exact .declined unstored rfl
    | none =>
      rw [given] at unstored
      exact .declined unstored rfl
  | ok data =>
    have unstored := Unstored.system encodes
    unfold Service.unstored at unstored
    cases given : job.path.filter fun p => !p.isEmpty with
    | some path =>
      rw [given] at unstored
      dsimp only
      unfold storeFile Host.absolute
      cases absolute : s.host.files.absolute path with
      | error t => exact .failed rfl
      | ok file =>
        dsimp only
        rcases s.host.write_cases file data fault with ⟨t, -, is⟩ | ⟨files, written, is⟩ <;> rw [is]
        · dsimp only
          split
          · exact .declined (unstored _) rfl
          · exact .failed rfl
        · cases fault with
          | none => exact .file given encodes absolute written
          | some breach =>
            dsimp only
            split
            · exact .brokenOff given encodes absolute written (unstored _)
            · exact .interrupted given encodes absolute written
    | none =>
      rw [given] at unstored
      dsimp only
      obtain ⟨-, made⟩ := makeScratch_cases s.host (Breach.kept fault data) maxScratchNames
      unfold storeScratch
      generalize makeScratch s.host _ maxScratchNames = answer at made ⊢
      obtain ⟨made', host⟩ := answer
      dsimp only at made ⊢
      rcases made with ⟨why, rfl, same⟩ | ⟨n, rfl, created⟩
      · exact .declined (unstored why) same
      · exact .scratch given encodes created

/-- Code that has not been stored is the answer of its run. -/
theorem Stores.unstored {answer : Except Failure RunResult}
    (stores : Stores s job fault (answer.map .answered, after)) :
    ∀ result, answer = .ok result → Unstored job result := by
  rintro result rfl
  cases stores with
  | declined unstored => exact unstored
  | brokenOff _ _ _ _ unstored => exact unstored

/-- If it has not been stored no file has changed, or a beginning of it is in the file that it was
    for. -/
theorem Stores.begun {answer : Except Failure RunResult} (orderly : s.host.files.Orderly)
    (stores : Stores s job fault (answer.map .answered, after)) :
    after.host.files = s.host.files ∨ ∃ path file data,
      (job.path.filter fun p => !p.isEmpty) = some path ∧
        s.host.files.absolute path = .ok file ∧
          Stored file data s.host.files after.host.files := by
  cases answer with
  | error e =>
    cases stores with
    | failed same => exact .inl same
    | interrupted given _ absolute begun =>
      exact .inr ⟨_, _, _, given, absolute, stored_of_write orderly begun⟩
  | ok result =>
    cases stores with
    | declined _ same => exact .inl same
    | brokenOff given _ absolute begun =>
      exact .inr ⟨_, _, _, given, absolute, stored_of_write orderly begun⟩

theorem abandon_snd (s : Service) (file : String) (refusal : Option Trouble)
    (how : Interruption) : (s.abandon file refusal how).2 = s.removeScratch file refusal := by
  cases how <;> rfl

/-! ## Launching -/

/-- The directory that a stored file is run in: a scratch file is run in its own. -/
def sourceDirectory (s : Service) (source : Source) : Except Failure String :=
  if source.isScratch then .ok (Path.directory source.file) else s.runDirectory source.file

/-- Launches a child for a stored file. -/
def launchSource (s : Service) (toolchain : String) (source : Source) (settings : Settings) :
    Answer PendingRun :=
  match s.sourceDirectory source with
  | .error e => (.error e, s)
  | .ok directory =>
    let launch := s.runLaunch toolchain source.file directory settings
    (.ok ⟨toolchain, source.file, source.isScratch, launch⟩, s.announce launch)

/-- What is launched runs the stored file. -/
theorem launchSource_ok {source : Source}
    (h : s.launchSource toolchain source settings = (.ok run, after)) :
    after.host.files = s.host.files ∧ SameSetup s after ∧
      run.toolchain = toolchain ∧ run.file = source.file ∧ run.isScratch = source.isScratch ∧
      run.launch.words = [toolchain, "run", source.file] ∧
      run.launch.environment = childVariables s.host settings := by
  unfold launchSource at h
  split at h
  · cases h
  · cases h
    exact ⟨rfl, ⟨rfl, rfl, rfl, rfl⟩, rfl, rfl, rfl, rfl, rfl⟩

/-- A launch that fails changes nothing; it is one of a file with a path. -/
theorem launchSource_error {source : Source} {e : Failure}
    (h : s.launchSource toolchain source settings = (.error e, after)) :
    after = s ∧ source.isScratch = false := by
  unfold launchSource at h
  cases placed : s.sourceDirectory source with
  | ok directory =>
    rw [placed] at h
    cases h
  | error e =>
    rw [placed] at h
    cases h
    refine ⟨rfl, Bool.eq_false_iff.mpr fun scratch => ?_⟩
    unfold sourceDirectory at placed
    rw [if_pos scratch] at placed
    cases placed

/-! ## Ending -/

/-- Takes away what is not needed any more: the scratch file. -/
def clean (s : Service) (run : PendingRun) (refusal : Option Trouble) : Service :=
  if run.isScratch then s.removeScratch run.file refusal else s

/-- What a run answers, from what its child has written and what went wrong. -/
def resultOf (platform : Platform) (toolchain : String) (raw : List UInt8)
    (error : Option String) : RunResult :=
  ⟨platform.readOutput raw,
    error.map fun e => if raw.isEmpty then e ++ launchHint toolchain else e⟩

/-- Notes that a file has been written; a scratch file is not worth a note. -/
def noteRun (s : Service) (run : PendingRun) : Answer Bool :=
  if run.isScratch then (.ok false, s) else s.noteWritten run.file

/-- Notes what has been written, and answers. -/
def conclude (s : Service) (run : PendingRun) (ending : Ending) : Answer RunResult :=
  match ending.outcome with
  | .error e => (.error e, s)
  | .ok (raw, error) => match s.noteRun run with
    | (.error e, s) => (.error e, s)
    | (.ok _, s) => (.ok (resultOf s.platform run.toolchain raw error), s)

theorem noteRun_snd (s : Service) (run : PendingRun) :
    SameSetup s (s.noteRun run).2 ∧ (s.noteRun run).2.host.files = s.host.files := by
  unfold noteRun
  split
  · exact ⟨.refl s, rfl⟩
  · exact ⟨noteWritten_setup s run.file, noteWritten_files s run.file⟩

/-- Answering changes no file. -/
theorem conclude_snd (s : Service) (run : PendingRun) (ending : Ending) :
    SameSetup s (s.conclude run ending).2 ∧
      (s.conclude run ending).2.host.files = s.host.files := by
  have noted := noteRun_snd s run
  unfold conclude
  split
  · exact ⟨.refl s, rfl⟩
  · split <;> rename_i is <;> rw [is] at noted <;> exact noted

/-- **Ending**: an answer is made of what the child has written and of how it ended. -/
theorem conclude_ok {result : RunResult} (h : (s.conclude run ending).1 = .ok result) :
    ∃ raw error, ending.outcome = .ok (raw, error) ∧
      result = resultOf s.platform run.toolchain raw error := by
  obtain ⟨setup, -⟩ := noteRun_snd s run
  unfold conclude at h
  split at h
  · cases h
  · rename_i raw error outcome
    refine ⟨raw, error, outcome, ?_⟩
    split at h
    · cases h
    · rename_i noted after is
      rw [is] at setup
      rw [← Except.ok.inj h, setup.platform]

/-! ## In one piece -/

/-- **In one piece**: before the child comes the toolchain, then storing, then launching. -/
theorem prepareRun_eq (s : Service) (job : RunJob) (fault : Option Breach)
    (refusal : Option Trouble) :
    s.prepareRun job fault refusal = match s.locate job.settings with
      | .error e => (.error e, s)
      | .ok toolchain => match s.store job fault with
        | (.error e, stored) => (.error e, stored)
        | (.ok (.answered result), stored) => (.ok (.answered result), stored)
        | (.ok (.waiting source), stored) => match fault with
          | some breach =>
            ((stored.abandon source.file refusal breach.how).1.map .answered,
              (stored.abandon source.file refusal breach.how).2)
          | none =>
            ((stored.launchSource toolchain source (s.withRoot job.settings)).1.map .waiting,
              (stored.launchSource toolchain source (s.withRoot job.settings)).2) := by
  unfold prepareRun store
  dsimp only
  cases s.locate job.settings with
  | error e => rfl
  | ok toolchain =>
    dsimp only
    cases job.code.encode with
    | error u => cases job.path.filter fun p => !p.isEmpty <;> rfl
    | ok data =>
      cases job.path.filter fun p => !p.isEmpty with
      | some path =>
        dsimp only
        unfold prepareFile storeFile launchSource sourceDirectory
        cases s.host.absolute path with
        | error e => rfl
        | ok file =>
          dsimp only
          rcases s.host.write_cases file data fault with ⟨t, -, is⟩ | ⟨files, -, is⟩ <;> rw [is]
          · dsimp only
            split <;> rfl
          · cases fault with
            | none =>
              dsimp only
              rw [if_neg Bool.false_ne_true]
              cases Service.runDirectory _ file <;> rfl
            | some breach =>
              dsimp only
              split <;> rfl
      | none =>
        dsimp only
        unfold prepareScratch storeScratch
        dsimp only
        cases (makeScratch s.host (Breach.kept fault data) maxScratchNames).1 with
        | error why => rfl
        | ok file =>
          rcases fault with _ | ⟨how, written⟩
          · rfl
          · cases how <;> rfl

/-- After the child come the report, cleaning up, and the answer. -/
theorem finishRun_eq (s : Service) (run : PendingRun) (ending : Ending)
    (refusal : Option Trouble) :
    s.finishRun run ending refusal =
      ((s.reportEnding run.launch.program ending).clean run refusal).conclude run ending := by
  have cleaned : s.settleRun run ending refusal =
    (s.reportEnding run.launch.program ending).clean run refusal := rfl
  unfold finishRun
  rw [cleaned]
  generalize (s.reportEnding run.launch.program ending).clean run refusal = s
  unfold conclude noteRun
  cases ending.outcome with
  | error e => rfl
  | ok outcome =>
    dsimp only
    generalize (if run.isScratch = true then (.ok false, s) else s.noteWritten run.file :
      Answer Bool) = note
    obtain ⟨noted, after⟩ := note
    cases noted <;> rfl

/-- A run waits for its child if the toolchain is located, the code stored, and the child
    launched. -/
theorem prepareRun_waiting_iff :
    s.prepareRun job fault refusal = (.ok (.waiting run), after) ↔
      fault = none ∧ ∃ toolchain source stored, s.locate job.settings = .ok toolchain ∧
        s.store job none = (.ok (.waiting source), stored) ∧
        stored.launchSource toolchain source (s.withRoot job.settings) = (.ok run, after) := by
  rw [prepareRun_eq]
  constructor
  · intro h
    split at h
    · cases h
    · rename_i toolchain located
      split at h
      · cases h
      · cases h
      · rename_i source stored is
        cases fault with
        | some breach =>
          obtain ⟨how, written⟩ := breach
          cases how <;> cases h
        | none =>
          refine ⟨rfl, toolchain, source, stored, located, is, ?_⟩
          dsimp only at h
          rcases launched : stored.launchSource toolchain source (s.withRoot job.settings) with
            ⟨e | run', after'⟩ <;> rw [launched] at h <;> cases h
          rfl
  · rintro ⟨rfl, toolchain, source, stored, located, is, launched⟩
    rw [located, is]
    dsimp only
    rw [launched]
    rfl

/-- A run that waits for its child has located its toolchain, which gets the file to run and the
    variables of the process with the settings over them. -/
theorem prepareRun_launch (h : s.prepareRun job fault refusal = (.ok (.waiting run), after)) :
    s.locate job.settings = .ok run.toolchain ∧
      run.launch.words = [run.toolchain, "run", run.file] ∧
      run.launch.environment = childVariables s.host (s.withRoot job.settings) ∧
      SameSetup s after := by
  obtain ⟨-, toolchain, source, stored, located, is, launched⟩ := prepareRun_waiting_iff.mp h
  have setup : SameSetup s stored := by
    have kept := store_setup s job none
    rw [is] at kept
    exact kept
  obtain ⟨-, announced, rfl, file, -, words, environment⟩ := launchSource_ok launched
  rw [setup.childVariables] at environment
  rw [← file] at words
  exact ⟨located, words, environment, setup.trans announced⟩

/-- Of a file that is run it can be told whether it is in the workspace. -/
theorem placed_of_waits (h : s.prepareRun job fault refusal = (.ok (.waiting run), after))
    (plain : run.isScratch = false) : after.Placed run.file := by
  obtain ⟨-, toolchain, source, stored, -, -, launched⟩ := prepareRun_waiting_iff.mp h
  obtain ⟨-, -, -, file, scratch, -⟩ := launchSource_ok launched
  rw [file]
  rw [scratch] at plain
  unfold launchSource sourceDirectory at launched
  rw [plain, if_neg Bool.false_ne_true] at launched
  cases placed : stored.runDirectory source.file with
  | error e =>
    rw [placed] at launched
    cases launched
  | ok directory =>
    rw [placed] at launched
    cases launched
    exact runDirectory_ok_iff.mp ⟨directory, placed⟩

/-- The first phase has come to a launch. -/
def Phase.IsWaiting {α β : Type} : Phase α β → Prop
  | .answered _ => False
  | .waiting _ => True

/-- With other settings, if these locate a toolchain, the run would have come as far. -/
theorem prepareRun_resettled (job : RunJob) {phase : Phase RunResult PendingRun}
    (h : (s.prepareRun job fault refusal).1 = .ok phase)
    (locates : ∀ toolchain, s.locate job.settings = .ok toolchain →
      ∃ toolchain', s.locate settings = .ok toolchain') :
    ∃ phase', (s.prepareRun { job with settings } fault refusal).1 = .ok phase' ∧
      (phase'.IsWaiting ↔ phase.IsWaiting) := by
  rw [prepareRun_eq] at h ⊢
  rw [store_resettled]
  dsimp only
  split at h
  · cases h
  · rename_i toolchain located
    obtain ⟨toolchain', located'⟩ := locates toolchain located
    rw [located']
    generalize s.store job fault = answer at h ⊢
    obtain ⟨e | result | source, stored⟩ := answer
    · cases h
    · cases h
      exact ⟨_, rfl, Iff.rfl⟩
    · cases fault with
      | some breach =>
        obtain ⟨how, written⟩ := breach
        cases how with
        | system why => cases h; exact ⟨_, rfl, Iff.rfl⟩
        | value why => cases h
        | other why => cases h
      | none =>
        unfold launchSource at h ⊢
        dsimp only at h ⊢
        generalize stored.sourceDirectory source = directory at h ⊢
        cases directory with
        | error e => cases h
        | ok directory => cases h; exact ⟨_, rfl, Iff.rfl⟩

/-! ## Commands -/

/-- The directory that a command line is run in: the workspace, or that of the process. -/
def commandDirectory (s : Service) : Except Failure String :=
  match s.workspace, s.host.files.workingDirectory with
  | some root, _ => .ok root
  | none, .ok here => .ok here
  | none, .error t => .error (.adrift t)

/-- **Commands**: a command line goes to its toolchain, with the variables of the process and the
    settings over them. -/
theorem prepareCommand_eq (s : Service) (job : CommandJob) : s.prepareCommand job =
    if (Text.words job.command).isEmpty then
      (.ok (.answered { error := some "no command given" }), s)
    else match s.locate job.settings with
      | .error e => (.error e, s)
      | .ok toolchain =>
        match commandWords job.command toolchain s.platform, s.commandDirectory with
        | .error e, _ => (.error e, s)
        | .ok _, .error e => (.error e, s)
        | .ok words, .ok directory =>
          let environment := childVariables s.host (s.withRoot job.settings)
          (.ok (.waiting ⟨words, some directory, environment⟩),
            s.announce ⟨words, some directory, environment⟩) := by
  unfold prepareCommand commandDirectory
  split
  · rfl
  · cases s.locate job.settings with
    | error e => rfl
    | ok toolchain =>
      dsimp only [bind, Except.bind]
      cases commandWords job.command toolchain s.platform with
      | error e => rfl
      | ok words =>
        cases s.workspace with
        | some root => rfl
        | none => cases s.host.files.workingDirectory <;> rfl

/-- The first phase of a command comes to an end just if there is a directory to run it in, or nothing
    to run. -/
theorem prepareCommand_cases (orderly : s.host.files.Orderly) (job : CommandJob) :
    (∃ phase, (s.prepareCommand job).1 = .ok phase ∧
      (Text.words job.command ≠ [] → ∃ directory, s.commandDirectory = .ok directory)) ∨
    ∃ e, s.prepareCommand job = (.error (.badPath e), s) ∧ Text.words job.command ≠ [] ∧
      s.commandDirectory = .error (.badPath e) := by
  rw [prepareCommand_eq]
  split
  · rename_i blank
    exact Or.inl ⟨_, rfl, fun some_word => absurd (List.isEmpty_iff.mp blank) some_word⟩
  · rename_i some_word
    obtain ⟨toolchain, located⟩ := locate_ok orderly job.settings
    obtain ⟨words, is_words⟩ := commandWords_ok some_word toolchain s.platform
    rw [located]
    dsimp only
    rw [is_words]
    cases placed : s.commandDirectory with
    | ok directory => exact Or.inl ⟨_, rfl, fun _ => ⟨directory, rfl⟩⟩
    | error e =>
      unfold commandDirectory at placed
      split at placed
      · cases placed
      · cases placed
      · cases placed
        exact Or.inr ⟨_, rfl, fun none => some_word (List.isEmpty_iff.mpr none), rfl⟩

/-- What a command line that waits for its child has launched. -/
theorem prepareCommand_launch {job : CommandJob} {launch : Launch}
    (h : s.prepareCommand job = (.ok (.waiting launch), after)) :
    ∃ toolchain words directory, s.locate job.settings = .ok toolchain ∧
      commandWords job.command toolchain s.platform = .ok words ∧
      launch = ⟨words, some directory, childVariables s.host (s.withRoot job.settings)⟩ := by
  rw [prepareCommand_eq] at h
  split at h
  · cases h
  · split at h
    · cases h
    · rename_i toolchain located
      split at h
      · cases h
      · cases h
      · rename_i words directory is_words _
        cases h
        exact ⟨toolchain, words, directory, located, is_words, rfl⟩

/-- With other settings, if these locate a toolchain, the command line would have come as far. -/
theorem prepareCommand_resettled (job : CommandJob) {phase : Phase RunResult Launch}
    (h : (s.prepareCommand job).1 = .ok phase)
    (locates : ∀ toolchain, s.locate job.settings = .ok toolchain →
      ∃ toolchain', s.locate settings = .ok toolchain') :
    ∃ phase', (s.prepareCommand { job with settings }).1 = .ok phase' ∧
      (phase'.IsWaiting ↔ phase.IsWaiting) := by
  rw [prepareCommand_eq] at h ⊢
  dsimp only
  split at h
  · rename_i blank
    rw [if_pos blank]
    cases h
    exact ⟨_, rfl, Iff.rfl⟩
  · rename_i some_word
    rw [if_neg some_word]
    split at h
    · cases h
    · rename_i toolchain located
      obtain ⟨toolchain', located'⟩ := locates toolchain located
      obtain ⟨words, is_words⟩ := commandWords_ok some_word toolchain' s.platform
      rw [located']
      dsimp only
      rw [is_words]
      split at h
      · cases h
      · cases h
      · rename_i directory _ is_directory
        rw [is_directory]
        cases h
        exact ⟨_, rfl, Iff.rfl⟩

end Service

end GoWorkbench
