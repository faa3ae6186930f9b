/-
  Whose symbols a service lists in the course of a session.

  In a session one call comes after the other, and a rebuild that a call schedules has ended before
  the next one; between the calls anything may happen to the files.

  1. **Steps** — a call, or one of the phases of a call that launches a child, or a change of the
     surroundings (`Step`).
  2. **The index** — a step leaves the index as it is, or rebuilds it once for the workspace that is
     active after it (`Step.touches`).  No other rebuild comes between, so what the scan finds is
     listed; if the scan fails, all is listed that was listed before (`Touches.symbols`).
  3. **After a switch** — so as long as the workspace stays, exactly what one scan of it has found
     is listed, and no scan has gone well since the switch if it is not so (`symbols_of_workspace`).
     Without rules every scan goes well.
  4. **Rules that cannot be read** — where the rules of the new workspace are not understood, the
     symbols of the old one are listed (`symbols_outlive_switch`).
-/
import GoWorkbench.Proofs.Index.Switching
import GoWorkbench.Proofs.Service.Choosing
import GoWorkbench.Proofs.Service.Triggers
import Mathlib.Logic.Relation

namespace GoWorkbench.Service

open FileSystem

variable {s s' between after before first : Service} {root path : String}

/-! ## Steps -/

/-- One step of a session. -/
inductive Step : Service → Service → Prop
  /-- Anything happens around the service: files change, directories are entered. -/
  | around (s : Service) (host : Host) : Step s { s with host }
  | start (s : Service) : Step s s.start.2
  | restore (s : Service) : Step s s.restore.2
  | setWorkspace (s : Service) (path : String) (persist reindex : Bool) (fault : Option Breach) :
      Step s (s.setWorkspace path persist reindex fault).2
  | rebuild (s : Service) : Step s s.rebuild.2
  | noteWritten (s : Service) (path : String) : Step s (s.noteWritten path).2
  | save (s : Service) (path : String) (content : Text.CodePoints) (fault : Option Breach) :
      Step s (s.save path content fault).2
  | prepareRun (s : Service) (job : RunJob) (fault : Option Breach) (refusal : Option Trouble) :
      Step s (s.prepareRun job fault refusal).2
  | finishRun (s : Service) (run : PendingRun) (ending : Ending) (refusal : Option Trouble) :
      Step s (s.finishRun run ending refusal).2
  | prepareCommand (s : Service) (job : CommandJob) : Step s (s.prepareCommand job).2
  | finishCommand (s : Service) (launch : Launch) (ending : Ending) :
      Step s (s.finishCommand launch ending).2
  | prepareReport (s : Service) (root : Option String) : Step s (s.prepareReport root).2
  | finishReport (s : Service) (launch : Launch) (ending : Ending) :
      Step s (s.finishReport launch ending).2

/-- A session: any number of steps. -/
def Session : Service → Service → Prop := Relation.ReflTransGen Step

/-- A session in which the workspace stays, with all the states it has come through. -/
inductive Stays (path : String) (first : Service) : List Service → Service → Prop
  | here : Stays path first [first] first
  | step {moments : List Service} {s s' : Service} (so_far : Stays path first moments s)
      (next : Step s s') (still : s'.workspace = some path) :
      Stays path first (moments ++ [s']) s'

/-! ## The index -/

/-- The index is as it was, or has been rebuilt once for the workspace that is active now, over the
    files that are there now. -/
inductive Touches (s after : Service) : Prop
  | kept (same : after.index = s.index)
  | rebuilt (root : String) (h : Host) (active : after.workspace = some root)
      (files : h.files = after.host.files) (rebuilds : after.index = (s.index.rebuild h root).2.1)

theorem Touches.of_same (same : between.index = s.index) (touches : Touches between after) :
    Touches s after := by
  cases touches with
  | kept is => exact .kept (is.trans same)
  | rebuilt root h active files rebuilds =>
    rw [same] at rebuilds
    exact .rebuilt root h active files rebuilds

theorem schedule_index (s : Service) (root : String) :
    (s.schedule root).index = (s.index.rebuild s.host root).2.1 := by
  unfold schedule SymbolIndex.rebuildUnattended
  dsimp only
  split <;> rename_i same <;> rw [same]

theorem touches_schedule (active : s.workspace = some root) : Touches s (s.schedule root) :=
  .rebuilt root s.host active (schedule_files s root).symm (schedule_index s root)

theorem touches_noteWritten (s : Service) (path : String) : Touches s (s.noteWritten path).2 := by
  unfold noteWritten
  split
  · exact .kept rfl
  · exact .kept rfl
  · rename_i root due
    exact touches_schedule (eq_of_rebuildDue due)

theorem touches_save (s : Service) (path : String) (content : Text.CodePoints)
    (fault : Option Breach) : Touches s (s.save path content fault).2 := by
  have same := (writeText_keeps s path content fault).index
  unfold save
  generalize s.writeText path content fault = written at same ⊢
  obtain ⟨answer, between⟩ := written
  cases answer with
  | error e => exact .kept same
  | ok =>
    have noted := touches_noteWritten between path
    dsimp only
    generalize between.noteWritten path = note at noted ⊢
    obtain ⟨answer, after⟩ := note
    cases answer with
    | error e => exact .of_same same noted
    | ok => exact .of_same same noted

theorem touches_finishRun (s : Service) (run : PendingRun) (ending : Ending)
    (refusal : Option Trouble) : Touches s (s.finishRun run ending refusal).2 := by
  have same := (settleRun_keeps s run ending refusal).index
  unfold finishRun
  dsimp only
  generalize s.settleRun run ending refusal = settled at same ⊢
  split
  · exact .kept same
  · have noted : Touches s
        (if run.isScratch then (.ok false, settled) else settled.noteWritten run.file).2 := by
      split
      · exact .kept same
      · exact .of_same same (touches_noteWritten settled run.file)
    generalize (if run.isScratch then (.ok false, settled) else settled.noteWritten run.file) =
      note at noted ⊢
    obtain ⟨answer, after⟩ := note
    cases answer with
    | error e => exact noted
    | ok => exact noted

theorem touches_setWorkspace (s : Service) (path : String) (persist reindex : Bool)
    (fault : Option Breach) : Touches s (s.setWorkspace path persist reindex fault).2 := by
  have scheduled : ∀ ready : Service, ready.index = s.index → ready.workspace = some path →
      Touches s (ready.schedule path) :=
    fun ready same active => .of_same same (touches_schedule active)
  unfold setWorkspace
  split
  · exact .kept rfl
  · dsimp only
    split
    · exact .kept rfl
    · split
      · exact scheduled _ rfl rfl
      · exact .kept rfl

/-- Restoring a workspace activates it and leaves the index alone. -/
theorem restore_index (s : Service) :
    s.restore.2.index = s.index ∧
      ∀ root, s.restore.1 = .ok (some root) → s.restore.2.workspace = some root := by
  unfold restore
  dsimp only
  split
  · exact ⟨rfl, fun _ is => nomatch is⟩
  · split
    · exact ⟨rfl, fun _ is => nomatch is⟩
    · exact ⟨rfl, fun _ is => Except.ok.inj is⟩

theorem touches_start (s : Service) : Touches s s.start.2 := by
  obtain ⟨same, active⟩ := restore_index s
  unfold start
  generalize s.restore = restored at same active ⊢
  obtain ⟨answer, between⟩ := restored
  rcases answer with e | _ | root
  · exact .kept same
  · exact .kept same
  · exact .of_same same (touches_schedule (active root rfl))

theorem rebuild_files (index : SymbolIndex) (h : Host) (root : String) :
    (index.rebuild h root).2.2.files = h.files := by
  unfold SymbolIndex.rebuild
  dsimp only
  split <;> rfl

theorem touches_rebuild (s : Service) : Touches s s.rebuild.2 := by
  unfold rebuild
  split
  · rename_i root active
    exact .rebuilt root s.host active (rebuild_files s.index s.host root).symm rfl
  · exact .kept rfl

/-- **The index** is rebuilt for the active workspace, or not at all. -/
theorem Step.touches (step : Step s after) : Touches s after := by
  cases step with
  | around host => exact .kept rfl
  | start => exact touches_start s
  | restore => exact .kept (restore_index s).1
  | setWorkspace path persist reindex fault =>
    exact touches_setWorkspace s path persist reindex fault
  | rebuild => exact touches_rebuild s
  | noteWritten path => exact touches_noteWritten s path
  | save path content fault => exact touches_save s path content fault
  | prepareRun job fault refusal => exact .kept (prepareRun_keeps s job fault refusal).index
  | finishRun run ending refusal => exact touches_finishRun s run ending refusal
  | prepareCommand job => exact .kept (prepareCommand_keeps s job).index
  | finishCommand launch ending => exact .kept (finishCommand_keeps s launch ending).index
  | prepareReport root => exact .kept (prepareReport_keeps s root).index
  | finishReport launch ending => exact .kept (finishReport_keeps s launch ending).index

/-- The index goes by these options, and no number is published that has not been taken. -/
structure Steady (options : Scan.Options) (s : Service) : Prop where
  options : s.index.options = options
  ordered : s.index.published ≤ s.index.started

/-- What a rebuild leaves of the index, by what its scan finds. -/
theorem rebuild_by_scan (index : SymbolIndex) (h : Host) (root : String) :
    (index.rebuild h root).2.1 = match Scan.symbols h index.options root with
      | .ok found => (index.take.2.publish index.take.1 found).2
      | .error _ => index.take.2 := by
  have reported := @Scan.symbols_of_files h
    (h.report .info SymbolIndex.source s!"Indexing symbols in: {Path.plain root}") rfl
    index.options root
  unfold SymbolIndex.rebuild SymbolIndex.start SymbolIndex.take
  dsimp only
  rw [reported]
  cases Scan.symbols h index.options root <;> rfl

/-- What a rebuild comes to that no other one comes between: what its scan finds is held, and if
    the scan fails, what was held before. -/
theorem rebuild_alone (index : SymbolIndex) (ordered : index.published ≤ index.started) (h : Host)
    (root : String) :
    (index.rebuild h root).2.1.options = index.options ∧
      (index.rebuild h root).2.1.published ≤ (index.rebuild h root).2.1.started ∧
      match Scan.symbols h index.options root with
      | .ok found => (index.rebuild h root).2.1.snapshot = found
      | .error _ => (index.rebuild h root).2.1.snapshot = index.snapshot := by
  rw [rebuild_by_scan]
  cases Scan.symbols h index.options root with
  | error e => exact ⟨rfl, Nat.le_succ_of_le ordered, rfl⟩
  | ok found =>
    -- its number has been taken last, so none above it is published
    have publishes : index.take.2.publish index.take.1 found =
        (true, (index.take.2.hold found).announce index.take.1) :=
      if_neg (Nat.not_lt.mpr (Nat.le_succ_of_le ordered))
    dsimp only
    rw [publishes]
    exact ⟨rfl, Nat.le_refl _, rfl⟩

theorem Touches.steady {options : Scan.Options} (touches : Touches s after)
    (steady : Steady options s) : Steady options after := by
  cases touches with
  | kept same => exact ⟨same ▸ steady.options, same ▸ steady.ordered⟩
  | rebuilt root h active files rebuilds =>
    obtain ⟨options_eq, ordered, -⟩ := rebuild_alone s.index steady.ordered h root
    exact ⟨rebuilds ▸ options_eq.trans steady.options, rebuilds ▸ ordered⟩

/-- Once the index has been rebuilt, what the scan finds is listed, and what was listed before if the
    scan fails. -/
theorem symbols_of_rebuild {options : Scan.Options} {h : Host} (steady : Steady options s)
    (files : h.files = after.host.files) (rebuilds : after.index = (s.index.rebuild h root).2.1) :
    Scan.symbols after.host options root = .ok after.symbols ∨
      after.symbols = s.symbols ∧ ∃ e, Scan.symbols after.host options root = .error e := by
  obtain ⟨-, -, held⟩ := rebuild_alone s.index steady.ordered h root
  rw [← rebuilds, steady.options, ← Scan.symbols_of_files files.symm] at held
  rcases scanned : Scan.symbols after.host options root with e | found
  · rw [scanned] at held
    exact .inr ⟨held, e, rfl⟩
  · rw [scanned] at held
    exact .inl (congrArg _ held.symm)

/-- **What is listed** after a step: what was listed before, or all that a scan of the active
    workspace finds; and only if the scan fails that has been called for, it is the former. -/
theorem Touches.symbols {options : Scan.Options} (touches : Touches s after)
    (steady : Steady options s) :
    after.symbols = s.symbols ∨
      ∃ root, after.workspace = some root ∧
        Scan.symbols after.host options root = .ok after.symbols := by
  cases touches with
  | kept same =>
    refine .inl ?_
    unfold Service.symbols
    rw [same]
  | rebuilt root h active files rebuilds =>
    obtain scanned | ⟨same, -⟩ := symbols_of_rebuild steady files rebuilds
    · exact .inr ⟨root, active, scanned⟩
    · exact .inl same

theorem Session.steady {options : Scan.Options} (session : Session first s)
    (steady : Steady options first) : Steady options s := by
  induction session with
  | refl => exact steady
  | tail _ step ih => exact step.touches.steady ih

theorem steady_of_create {h : Host} {config : Config} {directory : Option String}
    {platform : Platform} (created : create h config directory platform = .ok first) :
    Steady config.index first := by
  have placed : ∀ directory : String,
      create h config (some directory) platform = .ok first → Steady config.index first := by
    intro directory created
    unfold create at created
    dsimp only [bind, Except.bind, pure, Except.pure] at created
    split at created
    · cases created
    · cases created
      exact ⟨rfl, Nat.le_refl 0⟩
  cases directory with
  | some directory => exact placed directory created
  | none =>
    rcases here : h.files.workingDirectory with t | directory
    · unfold create at created
      dsimp only at created
      rw [here] at created
      cases created
    · refine placed directory ?_
      unfold create at created ⊢
      dsimp only at created ⊢
      rwa [here] at created

/-! ## After a switch -/

/-- A switch that schedules a rebuild has rebuilt the index for the new workspace. -/
theorem symbols_of_switch {options : Scan.Options} {persist : Bool} {answer : String}
    {fault : Option Breach} (steady : Steady options before)
    (switches : before.setWorkspace path persist true fault = (.ok answer, after)) :
    Scan.symbols after.host options path = .ok after.symbols ∨
      after.symbols = before.symbols ∧ ∃ e, Scan.symbols after.host options path = .error e := by
  rw [setWorkspace_reindex] at switches
  rcases chooses : before.setWorkspace path persist false fault with ⟨e | answer, ready⟩
  · rw [chooses] at switches
    cases switches
  · rw [chooses] at switches
    cases switches
    refine symbols_of_rebuild steady (schedule_files ready path).symm ?_
    rw [schedule_index, (setWorkspace_ok chooses).2]

/-- As long as the workspace stays, what is listed was listed at the start, or is all that a scan
    of the workspace has found since. -/
theorem Stays.symbols {options : Scan.Options} {moments : List Service}
    (stays : Stays path first moments s) (steady : Steady options first) :
    Steady options s ∧ (s.symbols = first.symbols ∨
      ∃ moment ∈ moments, Scan.symbols moment.host options path = .ok s.symbols) := by
  induction stays with
  | here => exact ⟨steady, .inl rfl⟩
  | @step moments s s' _ next still ih =>
    obtain ⟨steady, listed⟩ := ih
    refine ⟨next.touches.steady steady, ?_⟩
    obtain same | ⟨root, active, scanned⟩ := next.touches.symbols steady
    · rw [same]
      exact listed.imp_right fun ⟨moment, among, found⟩ =>
        ⟨moment, List.mem_append_left _ among, found⟩
    · rw [still] at active
      obtain rfl := Option.some.inj active
      exact .inr ⟨s', List.mem_append_right _ (List.mem_singleton_self s'), scanned⟩

theorem Stays.mem_first {moments : List Service} (stays : Stays path first moments s) :
    first ∈ moments := by
  induction stays with
  | here => exact List.mem_singleton_self first
  | step _ _ _ ih => exact List.mem_append_left _ ih

/-- **After a switch**: while the workspace stays, what is listed is all that one scan of it has
    found since, so the scan has yielded the files of these symbols; or all that was listed before
    the switch is listed, and then the scan for the switch has failed.  It does not fail without
    rules, if the workspace can be said from the root of the file system. -/
theorem symbols_of_workspace {h : Host} {config : Config} {directory : Option String}
    {platform : Platform} {persist : Bool} {fault : Option Breach} {moments : List Service}
    (created : create h config directory platform = .ok first) (session : Session first before)
    (switches : before.setWorkspace path persist true fault = (.ok path, after))
    (stays : Stays path after moments s) :
    ((∃ moment ∈ moments, Scan.symbols moment.host config.index path = .ok s.symbols ∧
        ∀ symbol ∈ s.symbols, Scan.Yields moment.host config.index path symbol.path) ∨
      s.symbols = before.symbols ∧
        ∃ e, Scan.symbols after.host config.index path = .error e) ∧
    (after.host.files.Orderly → after.host.files.Anchored path →
      Scan.hasRules after.host config.index (Path.plain path) = .ok false →
      ∃ found, Scan.symbols after.host config.index path = .ok found) := by
  have steady := Session.steady session (steady_of_create created)
  have steady_after : Steady config.index after := by
    have step := Step.setWorkspace before path persist true fault
    rw [switches] at step
    exact step.touches.steady steady
  refine ⟨?_, fun orderly anchored unruled => ?_⟩
  · have yields : ∀ moment : Service,
        Scan.symbols moment.host config.index path = .ok s.symbols →
        ∀ symbol ∈ s.symbols, Scan.Yields moment.host config.index path symbol.path := by
      intro moment scanned symbol listed
      obtain ⟨files, yielded, within⟩ := Scan.path_of_mem_symbols scanned
      exact ⟨files, yielded, within symbol listed⟩
    obtain ⟨-, same | ⟨moment, among, scanned⟩⟩ := stays.symbols steady_after
    · rw [same]
      obtain scanned | failed := symbols_of_switch steady switches
      · rw [← same] at scanned
        exact .inl ⟨after, stays.mem_first, same ▸ scanned, same ▸ yields after scanned⟩
      · exact .inr failed
    · exact .inl ⟨moment, among, scanned, yields moment scanned⟩
  · obtain ⟨location, inner, found⟩ := find_of_setWorkspace switches
    refine Scan.exists_symbols_of_unruled orderly.proper orderly.names (no_nul_of_find found) ?_
      unruled
    exact anchored.imp_left ((plain_forms path).1.trans ·)

/-! Two workspaces, one of which has a source. -/

open Switching

/-- A switch that goes well without a rebuild goes well with one. -/
theorem switch_scheduled {ready : Service}
    (switches : before.setWorkspace path false false = (.ok path, ready)) :
    before.setWorkspace path false true = (.ok path, ready.schedule path) := by
  rw [setWorkspace_reindex, switches]

/-- A service that has switched to `/a` lists the symbol there. -/
theorem lists_a {options : Scan.Options} (steady : Steady options first)
    (sound : first.host.files.Sound)
    (here : Entry.at? ["a"] first.host.files.entries =
      some (.directory [("a.go", .file sourceOfA false)]))
    (unruled : Scan.hasRules first.host options (Path.plain "/a") = .ok false) :
    ∃ before, Session first before ∧ before.symbols = [symbolOfA] ∧
      before.host.files = first.host.files := by
  have switches := switch_scheduled (switch_top (s := first) rfl leadsTo_a
    (leadsTo_a.passable (by decide) (by decide)) here)
  have files : (schedule { first with workspace := some "/a" } "/a").host.files =
      first.host.files := schedule_files _ _
  have step := Step.setWorkspace first "/a" false true none
  rw [switches] at step
  have scanned := (Scan.symbols_of_files files options "/a").trans
    (symbols_lone_a sound here unruled)
  refine ⟨_, .single step, ?_, files⟩
  obtain found | ⟨-, e, failed⟩ := symbols_of_switch steady switches
  · rw [scanned] at found
    exact (Except.ok.inj found).symm
  · rw [scanned] at failed
    cases failed

/-- And it can switch to `/b`. -/
theorem switches_to_b {inner : List (String × Entry)}
    (there : Entry.at? ["b"] before.host.files.entries = some (.directory inner)) :
    ∃ after, before.setWorkspace "/b" false true = (.ok "/b", after) ∧
      after.workspace = some "/b" ∧ after.host.files = before.host.files :=
  ⟨_, switch_scheduled (switch_top (s := before) rfl leadsTo_b
    (leadsTo_b.passable (by decide) (by decide)) there), rfl, schedule_files _ _⟩

theorem symbols_of_workspace_two : create twoTrees.host {} (some "/") .posix = .ok twoTrees ∧
    ∃ before after, Session twoTrees before ∧ before.symbols = [symbolOfA] ∧
      before.setWorkspace "/b" false true = (.ok "/b", after) ∧
      Stays "/b" after [after] after ∧
      ∀ symbol ∈ after.symbols, Scan.Yields after.host {} "/b" symbol.path := by
  have created : create twoTrees.host {} (some "/") .posix = .ok twoTrees := rfl
  obtain ⟨before, session, lists, files⟩ :=
    lists_a (steady_of_create created) sound_twoTrees rfl (Scan.hasRules_of_off _ rfl _)
  have there : Entry.at? ["b"] before.host.files.entries = some (.directory []) := by
    rw [files]
    rfl
  obtain ⟨after, switches, -, files'⟩ := switches_to_b there
  refine ⟨created, before, after, session, lists, switches, .here, ?_⟩
  obtain ⟨listed, goes_well⟩ := symbols_of_workspace created session switches .here
  have orderly : after.host.files.Orderly := by
    rw [files', files]
    exact sound_twoTrees.orderly
  obtain ⟨found, scanned⟩ := goes_well orderly (.inl rfl) (Scan.hasRules_of_off _ rfl _)
  obtain ⟨moment, among, -, yields⟩ | ⟨-, e, failed⟩ := listed
  · rw [List.mem_singleton.mp among] at yields
    exact yields
  · rw [scanned] at failed
    cases failed

/-! ## Rules that cannot be read -/

/-- The rules of `/b` are one exclamation mark. -/
def spoiledFiles : FileSystem :=
  ⟨[("a", .directory [("a.go", .file sourceOfA false)]),
    ("b", .directory [(".gitignore", .file [33] false)])], .root⟩

/-- A configuration that goes by rules. -/
def ruled : Config := { index := { respectIgnore := true } }

def spoiled : Service :=
  { twoTrees with
    config := ruled
    index := { options := ruled.index }
    host := { twoTrees.host with files := spoiledFiles } }

theorem sound_spoiled : spoiledFiles.Sound where
  proper := by simp only [spoiledFiles, Entry.Proper]; decide
  free := linkFree_of_countLinks (by simp [spoiledFiles, countLinks])
  stands := stands_root _
  names := fun _ h => absurd h List.not_mem_nil

theorem unruled_a : Scan.hasRules spoiled.host ruled.index (Path.plain "/a") = .ok false := by
  have leads : LeadsTo "/a/.gitignore" (["a"] ++ [".gitignore"]) := ⟨rfl, rfl, by decide⟩
  have file : Scan.ignoreFile (Path.plain "/a") = "/a/.gitignore" := rfl
  unfold Scan.hasRules Host.probe FileSystem.find
  rw [file, leads.reach_vacant (leads.passable (by decide) (by decide)) (by decide) ⟨_, rfl⟩ rfl]
  rfl

/-- No scan goes well where the rules are not understood. -/
theorem sourceFiles_b_ne_ok {h : Host} (files : h.files = spoiledFiles) (sources : List String) :
    Scan.sourceFiles h ruled.index "/b" ≠ .ok sources := by
  have leads : LeadsTo "/b/.gitignore" ["b", ".gitignore"] := ⟨rfl, rfl, by decide⟩
  have there : Entry.at? ["b", ".gitignore"] spoiledFiles.entries = some (.file [33] false) := rfl
  have passable : Passable "/b/.gitignore" := leads.passable (by decide) (by decide)
  have found := leads.find passable there (fits_file _ _)
  have no_link := leads.findLink passable there (fits_file _ _)
  have file : Scan.ignoreFile (Path.plain "/b") = "/b/.gitignore" := rfl
  intro scanned
  obtain ⟨wanted, asked, matcher, made, -⟩ := Scan.sourceFiles_eq_ok.mp scanned
  have goes_by_rules : wanted = true := by
    unfold Scan.hasRules Host.probe isLink at asked
    rw [file, files, found, no_link] at asked
    exact (Except.ok.inj asked).symm
  have reads : h.read "/b/.gitignore" = .ok [33] := by
    unfold Host.read FileSystem.read
    rw [files, found]
  obtain ⟨e, refused⟩ : ∃ e, Scan.rulesOf [33] = .error e := ⟨_, rfl⟩
  rw [goes_by_rules] at made
  unfold Scan.matcherOf Scan.readRules at made
  rw [file, reads] at made
  obtain ⟨data, is, made⟩ := Scan.bind_eq_ok.mp made
  cases is
  obtain ⟨rules, understood, -⟩ := Scan.bind_eq_ok.mp made
  rw [refused] at understood
  cases understood

/-- **Rules that cannot be read**: after a switch to `/b`, which has gone through, no scan of `/b`
    yields any file, and the symbols of `/a` are listed. -/
theorem symbols_outlive_switch :
    create spoiled.host ruled (some "/") .posix = .ok spoiled ∧
    ∃ before after, Session spoiled before ∧
      before.setWorkspace "/b" false true = (.ok "/b", after) ∧
      after.workspace = some "/b" ∧ after.symbols = [symbolOfA] ∧
      ∀ file, ¬ Scan.Yields after.host ruled.index "/b" file := by
  have created : create spoiled.host ruled (some "/") .posix = .ok spoiled := rfl
  have steady := steady_of_create created
  obtain ⟨before, session, lists, files⟩ := lists_a steady sound_spoiled rfl unruled_a
  have there : Entry.at? ["b"] before.host.files.entries =
      some (.directory [(".gitignore", .file [33] false)]) := by
    rw [files]
    rfl
  obtain ⟨after, switches, active, files'⟩ := switches_to_b there
  have fails := sourceFiles_b_ne_ok (files'.trans files)
  refine ⟨created, before, after, session, switches, active, ?_,
    fun file ⟨sources, scanned, _⟩ => fails sources scanned⟩
  obtain scanned | ⟨same, -⟩ := symbols_of_switch (session.steady steady) switches
  · obtain ⟨sources, scanned, -⟩ := Scan.path_of_mem_symbols scanned
    exact absurd scanned (fails sources)
  · exact same.trans lists

end GoWorkbench.Service
