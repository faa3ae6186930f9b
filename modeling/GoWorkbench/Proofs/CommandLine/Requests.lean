/-
  What becomes of a request.

  1. **Running** — what is run goes on just if the request for it is valid and nothing hinders it
     (`Runs.keeps`).
  2. **Requests** — so each request that reaches its service keeps the contract
     (`startRun_keeps` and its siblings).
-/
import GoWorkbench.Proofs.CommandLine.Contract

namespace GoWorkbench.CommandLine

open FileSystem GoWorkbench.Text

variable {s active after : Service} {h host : Host} {f : Failure} {input line : String}
  {file codeFile root : Option String} {settings : List String} {ending : Ending}
  {progress : Progress} {request : Request}

/-! ## Running -/

/-- A contract of a request that has reached its service. -/
def Keeps (s : Service) (input : String) (ending : Ending) (request : Request)
    (progress : Progress) : Prop :=
  Contract progress ending (Hinders s input request) (Misses s input ending request)
    (¬ Valid s request)

/-- A request that is made of a service without a workspace is valid if something hinders it. -/
theorem valid_of_hinders (orderly : s.host.files.Orderly) (fresh : s.workspace = none)
    (hinders : Hinders s input request f) : Valid s request := by
  cases hinders with
  | found activates => exact openable_of_activates orderly fresh activates
  | located => trivial
  | asked => trivial
  | workspace openable garbled =>
    refine ⟨openable, fun text => ?_⟩
    rw [garbled] at text
    cases text
  | @run path stuck codeFile root settings active job data activates made _ _ circles =>
    have activated := activate_cases orderly fresh root
    rw [activates] at activated
    cases activated with
    | opened openable _ files =>
      obtain ⟨job', data', made', -, -, legible, fine⟩ | ⟨f, unmade, -⟩ :=
        runJob_cases active.host (some path) codeFile settings input
      · obtain ⟨target, written, top, absolute, writes, -⟩ := circles
        rw [files] at legible absolute writes
        refine ⟨openable, legible, fine, ?_⟩
        rintro _ ⟨⟩ -
        refine ⟨target, absolute, fun nul => ?_⟩
        rw [write_of_nul nul] at writes
        cases writes
      · rw [made] at unmade
        cases unmade

/-- A failure that is shown declines the request. -/
theorem keeps_fail (orderly : s.host.files.Orderly) (fresh : s.workspace = none)
    (shown : isShown f = true) (invalid : ¬ Valid s request)
    (no_miss : ¬ Misses s input ending request) :
    Keeps s input ending request (.ended (fail host f)) := by
  unfold fail
  rw [if_pos shown]
  exact .of_refused _ (fun _ hinders => invalid (valid_of_hinders orderly fresh hinders)) no_miss
    invalid

/-- Any other failure breaks it off. -/
theorem keeps_hidden (hidden : isShown f = false) (hinders : ∀ g, Hinders s input request g ↔ f = g)
    (no_miss : ¬ Misses s input ending request) (valid : Valid s request) :
    Keeps s input ending request (.ended (fail host f)) := by
  refine .of_broken ?_ hinders no_miss (not_not.mpr valid)
  show (fail host f).status = .error f
  unfold fail
  rw [hidden, if_neg Bool.false_ne_true]

/-- What is run ends with its answer. -/
theorem keeps_endRun {answer : Answer RunResult} {r : RunResult}
    (ends : progress.finish ending = endWith endRun answer) (answers : answer.1 = .ok r)
    (free : ∀ f, ¬ Hinders s input request f) (valid : Valid s request)
    (misses : Misses s input ending request ↔ r.error ≠ none) :
    Keeps s input ending request progress := by
  have status : (progress.finish ending).status = (endRun answer.2.host r).status := by
    rw [ends]
    unfold endWith
    rw [answers]
  unfold endRun at status
  cases wrong : r.error with
  | none =>
    rw [wrong] at status misses
    exact .of_done status free (fun missed => misses.mp missed rfl) (not_not.mpr valid)
  | some e =>
    rw [wrong] at status misses
    exact .of_missed status free (misses.mpr nofun) (not_not.mpr valid)

theorem status_succeed (h : Host) (path : String) (v : Value) : (succeed h path v).status =
    if h.isText path then .ok 0 else .error .halfCharacter := by
  unfold succeed
  split <;> rfl

theorem isText_of_garbled (same : host.garbled = h.garbled) {path : String} :
    host.isText path = h.isText path := by
  unfold Host.isText
  rw [same]

/-- A request ends with a line in which a path stands, if that is a text. -/
theorem keeps_succeed {path : String}
    (status : (progress.finish ending).status =
      if host.isText path then .ok 0 else .error .halfCharacter)
    (hinders : ∀ f, Hinders s input request f ↔ host.isText path = false ∧ f = .halfCharacter)
    (no_miss : ¬ Misses s input ending request) (valid : Valid s request) :
    Keeps s input ending request progress := by
  cases text : host.isText path with
  | true =>
    rw [text] at status hinders
    exact .of_done status (fun f hindered => nomatch ((hinders f).mp hindered).1) no_miss
      (not_not.mpr valid)
  | false =>
    rw [text] at status hinders
    refine .of_broken status (fun g => (hinders g).trans ?_) no_miss (not_not.mpr valid)
    exact ⟨fun is => is.2.symm, fun is => ⟨rfl, is.symm⟩⟩

/-- A run that waits for its child goes on to what it answers. -/
theorem finish_run (s : Service) (job : RunJob) (ending : Ending) :
    (progressOf .running (s.prepareRun job none)).finish ending =
      endWith endRun (s.run job none (idle ending)) := by
  unfold Service.run idle
  generalize s.prepareRun job none = prepared
  obtain ⟨f | r | run, after⟩ := prepared <;> rfl

theorem finish_command (s : Service) (job : CommandJob) (ending : Ending) :
    (progressOf .commanding (s.prepareCommand job)).finish ending =
      endWith endRun (s.runCommand job (idle ending)) := by
  unfold Service.runCommand idle
  generalize s.prepareCommand job = prepared
  obtain ⟨f | r | launch, after⟩ := prepared <;> rfl

/-- A request that activates a workspace first is declined where that is not possible. -/
theorem keeps_of_activates (orderly : s.host.files.Orderly) (fresh : s.workspace = none)
    (needs : Valid s request → Openable s root)
    (follows : Misses s input ending request → ∃ active, activate s root = (.ok (), active))
    (refuses : ∀ f active, activate s root = (.error f, active) →
      progress = .ended (fail active.host f))
    (goes : ∀ active, activate s root = (.ok (), active) → Openable s root →
      (∀ top, active.workspace = some top → '\x00' ∉ top.toList) →
      active.host.files = s.host.files → Keeps s input ending request progress) :
    Keeps s input ending request progress := by
  have activated := activate_cases orderly fresh root
  rcases activates : activate s root with ⟨f | _, active⟩
  · rw [activates] at activated
    cases activated with
    | refused closed shown =>
      rw [refuses f active activates]
      refine keeps_fail orderly fresh shown (fun valid => closed (needs valid)) fun missed => ?_
      obtain ⟨active', again⟩ := follows missed
      rw [activates] at again
      cases again
  · rw [activates] at activated
    cases activated with
    | opened openable plain files => exact goes active activates openable plain files

/-- What is run once its job has been made: the first phase, and the whole of it with a child that
    changes nothing. -/
structure Runs {Job β : Type} (s : Service) (input : String) (ending : Ending) (request : Request)
    (wait : β → Service → Progress) (prepare : Job → Answer (Service.Phase RunResult β))
    (answer : Job → Answer RunResult) (made : Except Failure Job) : Prop where
  finishes : ∀ job, (progressOf wait (prepare job)).finish ending = endWith endRun (answer job)
  fails : ∀ job f after, prepare job = (.error f, after) → (answer job).1 = .error f
  answers : ∀ job phase after, prepare job = (.ok phase, after) → ∃ r, (answer job).1 = .ok r
  misses : Misses s input ending request ↔ ∃ job r after, made = .ok job ∧
    answer job = (.ok r, after) ∧ r.error ≠ none
  /-- No job is made for a request that is not valid. -/
  refuses : ∀ f, made = .error f → isShown f = true ∧ ¬ Valid s request
  /-- What hinders it is a failure of the first phase that is not shown. -/
  hinders : ∀ job f, made = .ok job → (Hinders s input request f ↔
    isShown f = false ∧ ∃ after, prepare job = (.error f, after))
  /-- A failure that is shown means that it is not valid. -/
  valid : ∀ job, made = .ok job → (Valid s request ↔
    ∀ f after, prepare job = (.error f, after) → isShown f = false)

section Runs

variable {Job β : Type} {wait : β → Service → Progress}
  {prepare : Job → Answer (Service.Phase RunResult β)} {answer : Job → Answer RunResult}
  {made : Except Failure Job} {job : Job} {phase : Service.Phase RunResult β}

/-- Where no job is made, the request is declined. -/
theorem Runs.keeps_unmade (orderly : s.host.files.Orderly) (fresh : s.workspace = none)
    (runs : Runs s input ending request wait prepare answer made) (unmade : made = .error f) :
    Keeps s input ending request (.ended (fail host f)) := by
  obtain ⟨shown, invalid⟩ := runs.refuses f unmade
  refine keeps_fail orderly fresh shown invalid fun missed => ?_
  obtain ⟨job, r, after, is_job, -⟩ := runs.misses.mp missed
  rw [unmade] at is_job
  cases is_job

/-- Where the first phase fails, the request is declined, or the failure hinders it. -/
theorem Runs.keeps_failed (orderly : s.host.files.Orderly) (fresh : s.workspace = none)
    (runs : Runs s input ending request wait prepare answer made) (is_job : made = .ok job)
    (prepared : prepare job = (.error f, after)) :
    Keeps s input ending request (.ended (fail after.host f)) := by
  have no_miss : ¬ Misses s input ending request := fun missed => by
    obtain ⟨other, r, after', is_other, answers, -⟩ := runs.misses.mp missed
    obtain rfl := Except.ok.inj (is_job.symm.trans is_other)
    have failed := runs.fails job f after prepared
    rw [answers] at failed
    cases failed
  have hinders := fun g => runs.hinders job g is_job
  have valid := runs.valid job is_job
  simp only [prepared, Prod.mk.injEq, Except.error.injEq] at hinders valid
  cases shown : isShown f with
  | true =>
    refine keeps_fail orderly fresh shown (fun is_valid => ?_) no_miss
    rw [valid.mp is_valid f after ⟨rfl, rfl⟩] at shown
    cases shown
  | false =>
    refine keeps_hidden shown (fun g => (hinders g).trans ⟨?_, ?_⟩) no_miss (valid.mpr ?_)
    · exact fun ⟨_, _, is, _⟩ => is
    · rintro rfl
      exact ⟨shown, after, rfl, rfl⟩
    · rintro g _ ⟨rfl, -⟩
      exact shown

/-- Where it goes well, the request ends with the answer of the whole. -/
theorem Runs.keeps_answered (runs : Runs s input ending request wait prepare answer made)
    (is_job : made = .ok job) (prepared : prepare job = (.ok phase, after)) :
    Keeps s input ending request (progressOf wait (prepare job)) := by
  obtain ⟨r, answers⟩ := runs.answers job phase after prepared
  have free : ∀ f, ¬ Hinders s input request f := by
    intro f hindered
    obtain ⟨-, after', failed⟩ := (runs.hinders job f is_job).mp hindered
    rw [prepared] at failed
    cases failed
  have valid : Valid s request := (runs.valid job is_job).mpr fun f after' failed => by
    rw [prepared] at failed
    cases failed
  refine keeps_endRun (runs.finishes job) answers free valid (runs.misses.trans ⟨?_, fun wrong => ?_⟩)
  · rintro ⟨other, r', after', is_other, answers', wrong⟩
    obtain rfl := Except.ok.inj (is_job.symm.trans is_other)
    rw [answers'] at answers
    exact Except.ok.inj answers ▸ wrong
  · exact ⟨job, r, (answer job).2, is_job, Prod.ext answers rfl, wrong⟩

/-- **Running**: what is run keeps the contract. -/
theorem Runs.keeps (orderly : s.host.files.Orderly) (fresh : s.workspace = none)
    (runs : Runs s input ending request wait prepare answer made)
    (stops : ∀ f, made = .error f → ∃ host, progress = .ended (fail host f))
    (goes : ∀ job, made = .ok job → progress = progressOf wait (prepare job)) :
    Keeps s input ending request progress := by
  rcases is_job : made with f | job
  · obtain ⟨host, is⟩ := stops f is_job
    rw [is]
    exact runs.keeps_unmade orderly fresh is_job
  · rw [goes job is_job]
    rcases prepared : prepare job with ⟨f | phase, after⟩
    · exact runs.keeps_failed orderly fresh is_job prepared
    · rw [← prepared]
      exact runs.keeps_answered is_job prepared

end Runs

/-- A run whose first phase has gone well answers. -/
theorem run_idle_answers {job : RunJob} {phase : Service.Phase RunResult Service.PendingRun}
    (plain : ending.Plain) (prepared : s.prepareRun job none = (.ok phase, after)) :
    ∃ r, (s.run job none (idle ending)).1 = .ok r := by
  unfold Service.run idle
  rw [prepared]
  cases phase with
  | answered r => exact ⟨r, rfl⟩
  | waiting run =>
    exact Service.finishRun_answers plain fun scratch => Service.placed_of_waits prepared scratch

/-- The first phase of a run is hindered by a circle. -/
theorem prepareRun_of_hinders {job : RunJob} (orderly : active.host.files.Orderly)
    (activates : activate s root = (.ok (), active))
    (made : runJob active.host file codeFile settings input = .ok job)
    (hinders : Hinders s input (.run file codeFile settings root) f) :
    isShown f = false ∧ ∃ after, active.prepareRun job none = (.error f, after) := by
  cases hinders with
  | run again made' encodes some_path circles =>
    rw [activates] at again
    cases again
    obtain rfl := Except.ok.inj (made.symm.trans made')
    obtain ⟨job', data, made', given, -⟩ | ⟨f, unmade, -⟩ :=
      runJob_cases active.host (some _) codeFile settings input
    · obtain rfl := Except.ok.inj (made.symm.trans made')
      exact ⟨rfl, Service.prepareRun_of_circles orderly encodes given some_path circles⟩
    · rw [made] at unmade
      cases unmade

/-- It fails for that only, or because the path cannot be named. -/
theorem run_decides {job : RunJob} (orderly : s.host.files.Orderly) (fresh : s.workspace = none)
    (activates : activate s root = (.ok (), active)) (openable : Openable s root)
    (plain : ∀ top, active.workspace = some top → '\x00' ∉ top.toList)
    (files : active.host.files = s.host.files)
    (made : runJob active.host file codeFile settings input = .ok job) :
    (∀ f after, active.prepareRun job none = (.error f, after) → isShown f = false →
      Hinders s input (.run file codeFile settings root) f) ∧
    (Valid s (.run file codeFile settings root) ↔
      ∀ f after, active.prepareRun job none = (.error f, after) → isShown f = false) := by
  obtain ⟨_, data, made', path, encodes, legible, fine⟩ | ⟨f, unmade, -⟩ :=
    runJob_cases active.host file codeFile settings input
  swap
  · rw [made] at unmade
    cases unmade
  obtain rfl := Except.ok.inj (made.symm.trans made')
  subst path
  have prepares := @Service.prepareRun_prepares active job none data (files ▸ orderly) encodes plain
  rw [files] at legible
  -- The job is made, so what is left to decide is where its file would be.
  generalize active.prepareRun job none = prepared at prepares
  cases prepares with
  | ready named =>
    rw [files] at named
    have goes : ∀ {phase : Service.Phase RunResult Service.PendingRun} {f : Failure}
        {after after' : Service}, (Except.ok phase, after) ≠ (Except.error f, after') :=
      fun failed => nomatch (Prod.mk.inj failed).1
    exact ⟨fun _ _ failed => absurd failed goes,
      iff_of_true ⟨openable, legible, fine, named⟩ fun _ _ failed => absurd failed goes⟩
  | unnamed given some_path unnameable =>
    refine ⟨?_, iff_of_false (fun valid => ?_) fun hidden => ?_⟩
    · rintro _ _ ⟨⟩ ⟨⟩
    · rw [files] at unnameable
      exact unnameable (valid.2.2.2 _ given some_path)
    · cases hidden _ _ rfl
  | @circle path stuck _ given some_path circles =>
    have hinders : Hinders s input (.run job.path codeFile settings root) (.circle stuck) := by
      rw [given] at made ⊢
      exact .run activates made encodes some_path circles
    refine ⟨?_, iff_of_true (valid_of_hinders orderly fresh hinders) ?_⟩
    · rintro _ _ ⟨⟩ -
      exact hinders
    · rintro _ _ ⟨⟩
      rfl

theorem runs_run (orderly : s.host.files.Orderly) (fresh : s.workspace = none)
    (plain : ending.Plain)
    (activates : activate s root = (.ok (), active)) (openable : Openable s root)
    (no_nul : ∀ top, active.workspace = some top → '\x00' ∉ top.toList)
    (files : active.host.files = s.host.files) :
    Runs s input ending (.run file codeFile settings root) .running
      (fun job => active.prepareRun job none) (fun job => active.run job none (idle ending))
      (runJob active.host file codeFile settings input) where
  finishes := fun job => finish_run active job ending
  fails := fun job f after prepared => by
    unfold Service.run
    rw [prepared]
  answers := fun job phase after prepared => run_idle_answers plain prepared
  misses := by
    constructor
    · rintro (_ | ⟨again, made, answers, wrong⟩)
      rw [activates] at again
      cases again
      exact ⟨_, _, _, made, answers, wrong⟩
    · rintro ⟨job, r, after, made, answers, wrong⟩
      exact .run activates made answers wrong
  refuses := fun f unmade => by
    obtain ⟨job, data, made, -⟩ | ⟨f', unmade', shown, invalid⟩ :=
      runJob_cases active.host file codeFile settings input
    · rw [unmade] at made
      cases made
    · obtain rfl := Except.error.inj (unmade.symm.trans unmade')
      rw [files] at invalid
      exact ⟨shown, fun valid => invalid ⟨valid.2.1, valid.2.2.1⟩⟩
  hinders := fun job f made => by
    refine ⟨prepareRun_of_hinders (files ▸ orderly) activates made, ?_⟩
    rintro ⟨hidden, after, failed⟩
    exact (run_decides orderly fresh activates openable no_nul files made).1 f after failed hidden
  valid := fun _ made => (run_decides orderly fresh activates openable no_nul files made).2

/-- The first phase of a command line fails just if it is not blank and there is no place for it,
    and that is shown. -/
theorem command_decides {job : CommandJob} (orderly : s.host.files.Orderly)
    (activates : activate s root = (.ok (), active)) (openable : Openable s root)
    (files : active.host.files = s.host.files)
    (made : (settingsOf [] settings).bind (CommandJob.make line) = .ok job) :
    (∀ f after, active.prepareCommand job = (.error f, after) → isShown f = true) ∧
    (Valid s (.command line settings root) ↔
      ∀ f after, active.prepareCommand job ≠ (.error f, after)) := by
  obtain ⟨result, made', fine⟩ | ⟨f, unmade, -⟩ := (makes_commandJob line).cases settings
  swap
  · rw [made] at unmade
    cases unmade
  obtain rfl := Except.ok.inj (made.symm.trans made')
  rw [← files] at orderly
  have activated : (activate s root).2 = active := by rw [activates]
  obtain ⟨phase, prepared, placed⟩ | ⟨e, refused, some_word, adrift⟩ :=
    Service.prepareCommand_cases orderly ⟨line, result⟩
  · have fails_not : ∀ f after, active.prepareCommand ⟨line, result⟩ ≠ (.error f, after) := by
      intro f after failed
      rw [failed] at prepared
      cases prepared
    refine ⟨fun f after failed => absurd failed (fails_not f after),
      iff_of_true ⟨openable, fine, ?_⟩ fails_not⟩
    rw [activated]
    exact placed
  · refine ⟨fun f after failed => ?_, iff_of_false (fun valid => ?_) fun goes => goes _ _ refused⟩
    · rw [refused] at failed
      cases failed
      rfl
    · obtain ⟨place, placed⟩ := valid.2.2 some_word
      rw [activated, adrift] at placed
      cases placed

theorem runs_command (orderly : s.host.files.Orderly) (plain : ending.Plain)
    (activates : activate s root = (.ok (), active)) (openable : Openable s root)
    (files : active.host.files = s.host.files) :
    Runs s input ending (.command line settings root) .commanding active.prepareCommand
      (fun job => active.runCommand job (idle ending))
      ((settingsOf [] settings).bind (CommandJob.make line)) where
  finishes := fun job => finish_command active job ending
  fails := fun job f after prepared => by
    unfold Service.runCommand
    rw [prepared]
  answers := fun job phase after prepared =>
    Service.runCommand_answers (congrArg Prod.fst prepared) fun _ _ => plain
  misses := by
    constructor
    · rintro (_ | _ | ⟨again, made, answers, wrong⟩)
      rw [activates] at again
      cases again
      exact ⟨_, _, _, made, answers, wrong⟩
    · rintro ⟨job, r, after, made, answers, wrong⟩
      exact .command activates made answers wrong
  refuses := fun f unmade => by
    obtain ⟨result, made, -⟩ | ⟨f', unmade', shown, faulty⟩ := (makes_commandJob line).cases settings
    · rw [unmade] at made
      cases made
    · obtain rfl := Except.error.inj (unmade.symm.trans unmade')
      exact ⟨shown, fun valid => faulty valid.2.1⟩
  hinders := fun job f made => by
    refine iff_of_false nofun ?_
    rintro ⟨hidden, after, failed⟩
    rw [(command_decides orderly activates openable files made).1 f after failed] at hidden
    cases hidden
  valid := fun job made => by
    obtain ⟨shown, valid⟩ := command_decides orderly activates openable files made
    refine valid.trans ⟨fun goes f after failed => absurd failed (goes f after), ?_⟩
    intro hidden f after failed
    exact Bool.false_ne_true ((hidden f after failed).symm.trans (shown f after failed))

/-! ## Requests -/

theorem findImport_keeps (orderly : s.host.files.Orderly) (fresh : s.workspace = none)
    (base specifier : String) :
    Keeps s input ending (.resolve base specifier root)
      (.ended (findImport s base specifier root)) := by
  refine keeps_of_activates orderly fresh id ?_ ?_ fun active activates openable _ _ => ?_
  · rintro ⟨activates, -⟩
    exact ⟨_, activates⟩
  · intro f active activates
    unfold findImport
    rw [activates]
  · unfold findImport
    rw [activates]
    dsimp only
    cases found : active.resolve base specifier with
    | none =>
      refine .of_missed rfl ?_ (.nothing activates found) (not_not.mpr openable)
      rintro f ⟨again, found'⟩
      rw [activates] at again
      cases again
      rw [found] at found'
      cases found'
    | some path =>
      refine keeps_succeed (status_succeed active.host path _) (fun f => ?_) ?_ openable
      · constructor
        · rintro ⟨again, found', garbled⟩
          rw [activates] at again
          cases again
          rw [found] at found'
          cases found'
          exact ⟨garbled, rfl⟩
        · rintro ⟨garbled, rfl⟩
          exact .found activates found garbled
      · rintro ⟨again, unresolved⟩
        rw [activates] at again
        cases again
        rw [found] at unresolved
        cases unresolved

theorem startRun_keeps (orderly : s.host.files.Orderly) (fresh : s.workspace = none)
    (plain : ending.Plain) :
    Keeps s input ending (.run file codeFile settings root)
      (startRun s file codeFile settings root input) := by
  unfold startRun
  refine keeps_of_activates orderly fresh (fun valid => valid.1) ?_ ?_
    fun active activates openable no_nul files => ?_
  · rintro (_ | ⟨activates, -⟩)
    exact ⟨_, activates⟩
  · intro f active activates
    rw [activates]
  · rw [activates]
    refine (runs_run orderly fresh plain activates openable no_nul files).keeps orderly fresh
      (fun f unmade => ?_) fun job made => ?_
    · dsimp only
      rw [unmade]
      exact ⟨_, rfl⟩
    · dsimp only
      rw [made]
      dsimp only
      generalize active.prepareRun job none = prepared
      obtain ⟨f | r | run, after⟩ := prepared <;> rfl

theorem startCommand_keeps (orderly : s.host.files.Orderly) (fresh : s.workspace = none)
    (plain : ending.Plain) :
    Keeps s input ending (.command line settings root) (startCommand s line settings root) := by
  rw [startCommand_eq]
  refine keeps_of_activates orderly fresh (fun valid => valid.1) ?_ ?_
    fun active activates openable _ files => ?_
  · rintro (_ | _ | ⟨activates, -⟩)
    exact ⟨_, activates⟩
  · intro f active activates
    rw [activates]
  · rw [activates]
    refine (runs_command orderly plain activates openable files).keeps orderly fresh
      (fun f unmade => ?_) fun job made => ?_
    · dsimp only
      rw [unmade]
      exact ⟨_, rfl⟩
    · dsimp only
      rw [made]

/-- A path that is a text can be remembered, unless the state file cannot have its path. -/
theorem remember_cases {path : String} (orderly : s.host.files.Orderly)
    (text : s.host.isText path = true) :
    (∃ written host, s.remember path none = (.ok written, host) ∧ host.garbled = s.host.garbled ∧
      '\x00' ∉ s.statePath.toList) ∨
    '\x00' ∈ s.statePath.toList ∧
      s.remember path none = (.error (.refused .nul s.statePath), s.host) := by
  rw [Service.remember_of_text text]
  by_cases nul : '\x00' ∈ s.statePath.toList
  · exact Or.inr ⟨nul, SavedState.save_of_nul nul none⟩
  · have ends := SavedState.save_ends orderly s.statePath (.ofString path) none
    generalize SavedState.save s.host s.statePath (.ofString path) none = answer at ends ⊢
    cases ends with
    | stored => exact Or.inl ⟨_, _, rfl, rfl, nul⟩
    | refused => exact Or.inl ⟨_, _, rfl, rfl, nul⟩
    | halved half => exact absurd half (SavedState.not_halved path)
    | nul given => exact absurd given nul

theorem setWorkspace_keeps (orderly : s.host.files.Orderly) (fresh : s.workspace = none)
    (path : String) :
    Keeps s input ending (.workspace path) (.ended (endWith (fun h path =>
      succeed h path (.table [("status", .text "ok"), ("path", .text path)]))
      (s.setWorkspace path true false))) := by
  have hinders : ∀ f, Hinders s input (.workspace path) f ↔
      Openable s (some path) ∧ s.host.isText path = false ∧ f = .halfCharacter := by
    refine fun f => ⟨?_, ?_⟩
    · rintro (_ | _ | _ | ⟨openable, garbled⟩)
      exact ⟨openable, garbled, rfl⟩
    · rintro ⟨openable, garbled, rfl⟩
      exact .workspace openable garbled
  cases checked : Service.checkWorkspace s.host path with
  | error fault =>
    rw [Service.setWorkspace_of_refused checked]
    refine keeps_fail orderly fresh rfl (fun valid => ?_) nofun
    rw [Service.checkWorkspace_ok_iff.mpr valid.1] at checked
    cases checked
  | ok =>
    have openable := Service.checkWorkspace_ok_iff.mp checked
    cases text : s.host.isText path with
    | false =>
      rw [Service.setWorkspace_of_broken checked (Service.remember_of_garbled text none)]
      refine keeps_hidden rfl (fun g => (hinders g).trans ?_) nofun ⟨openable, fun is => ?_⟩
      · exact ⟨fun ⟨_, _, is⟩ => is.symm, fun is => ⟨openable, text, is.symm⟩⟩
      · rw [text] at is
        cases is
    | true =>
      have free : ∀ f, ¬ Hinders s input (.workspace path) f := fun f hindered => by
        rw [(hinders f).mp hindered |>.2.1] at text
        cases text
      obtain ⟨written, host, remembers, names, no_nul⟩ | ⟨nul, broken⟩ :=
        remember_cases orderly text
      · rw [@Service.setWorkspace_of_saved _ _ true false none _ _ checked remembers]
        refine .of_done ?_ free nofun (not_not.mpr ⟨openable, fun _ => no_nul⟩)
        show (succeed host path _).status = _
        rw [status_succeed, isText_of_garbled names, text]
        rfl
      · rw [Service.setWorkspace_of_broken checked broken]
        exact keeps_fail orderly fresh rfl (fun valid => valid.2 text nul) nofun

/-- The toolchain is shown, or asked, whatever there is of it. -/
theorem locate_keeps (orderly : s.host.files.Orderly) (goroot : Option String) :
    Keeps s input ending (.locate goroot) (.ended (endWith (fun h path =>
      succeed h path (pathTable path))
      (s.locate [(Toolchain.rootVariable, goroot.getD "")], s))) := by
  obtain ⟨toolchain, located⟩ :=
    Service.locate_ok orderly [(Toolchain.rootVariable, goroot.getD "")]
  rw [located]
  refine keeps_succeed (status_succeed s.host toolchain _) (fun f => ⟨?_, ?_⟩) nofun trivial
  · rintro (_ | ⟨again, garbled⟩)
    rw [located] at again
    cases again
    exact ⟨garbled, rfl⟩
  · rintro ⟨garbled, rfl⟩
    exact .located located garbled

theorem report_keeps (orderly : s.host.files.Orderly) (plain : ending.Plain)
    (goroot : Option String) :
    Keeps s input ending (.report goroot) (match s.prepareReport goroot with
      | (.error f, s) => .ended (fail s.host f)
      | (.ok launch, s) => .reporting launch s) := by
  obtain ⟨toolchain, located⟩ := Service.locate_ok orderly (Service.rootSettings goroot)
  obtain ⟨raw, error, outcome⟩ := Ending.outcome_ok plain
  unfold Service.prepareReport
  dsimp only
  rw [located]
  dsimp only
  have status : ∀ launched launch, launched.host.garbled = s.host.garbled →
      launch.program = toolchain → ((Progress.reporting launch launched).finish ending).status =
        if s.host.isText toolchain then .ok 0 else .error .halfCharacter := by
    intro launched launch names program
    have kept : (launched.reportEnding launch.program ending).host.garbled = s.host.garbled := by
      unfold Service.reportEnding
      split <;> exact names
    show (endWith _ (launched.finishReport launch ending)).status = _
    unfold endWith Service.finishReport
    rw [outcome]
    dsimp only
    rw [status_succeed, isText_of_garbled kept, program]
  refine keeps_succeed (status _ _ rfl rfl) (fun f => ⟨?_, ?_⟩) nofun trivial
  · rintro (_ | _ | ⟨again, garbled⟩)
    rw [located] at again
    cases again
    exact ⟨garbled, rfl⟩
  · rintro ⟨garbled, rfl⟩
    exact .asked located garbled

end GoWorkbench.CommandLine
