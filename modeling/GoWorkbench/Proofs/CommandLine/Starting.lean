/-
  How a request gets started.

  The program reads its configuration, opens the file for its reports, makes a service, and activates
  a workspace; all of this only looks at files, but that one file may be made.  Then a command that
  runs something reads what to run and with which settings, and goes as far as the launch.

  1. **Before the request** — what is configured where nothing is said (`configure_serving`), and
     what the service starts with (`create_serving`, `eq_of_create`).  The file for the reports is
     made or left as it was (`touched_of_openLog`), and activating a workspace changes no file
     (`activate_snd`).
  2. **Jobs** — a job is made of its settings if these are of the toolchain (`makes_runJob`,
     `makes_commandJob`).
  3. **Up to the launch** — the two commands that run something are their parts in a row
     (`startRun_eq`, `startCommand_eq`), so a launch for code comes from a run (`startRun_runs`).
  4. **From the command line** — a configured program carries its request out
     (`start_configured`), so this holds of the whole program (`start_runs`).
-/
import GoWorkbench.CommandLine.Execution
import GoWorkbench.Proofs.Config.Loading
import GoWorkbench.Proofs.FileSystem.Resolving
import GoWorkbench.Proofs.FileSystem.Touching
import GoWorkbench.Proofs.SavedState
import GoWorkbench.Proofs.Service.Activation
import GoWorkbench.Proofs.Service.Phases

namespace GoWorkbench.CommandLine

open Entry FileSystem

/-! ## Before the request -/

/-- A directory that no link leads to is its own link-free form. -/
theorem canonical_serving {files : FileSystem} (orderly : files.Orderly)
    (there : dirAt ["w"] files.entries) :
    (Service.serving files).host.canonical "/w" = .ok "/w" := by
  have leads : LeadsTo "/w" ["w"] := ⟨rfl, rfl, by decide⟩
  obtain ⟨inner, here⟩ := there
  have found := leads.find (leads.passable (by decide) (by decide)) here (fits_directory _ _)
  unfold Host.canonical FileSystem.canonical
  rcases canonicalNames_of_find orderly (leads.sighted here nofun) found with is | ⟨adrift, -⟩
  · rw [show (Service.serving files).host.files.canonicalNames "/w" = .ok ["w"] from is]
    rfl
  · exact absurd (Or.inl rfl) adrift

/-- A directory without a configuration file gives the defaults. -/
theorem configure_serving {files : FileSystem} (orderly : files.Orderly)
    (there : dirAt ["w"] files.entries)
    (free : Entry.at? (["w"] ++ ["editor.toml"]) files.entries = none) :
    configure (Service.serving files).host "/w" = .ok ("/w", {}) := by
  have leads_file : LeadsTo "/w/editor.toml" (["w"] ++ ["editor.toml"]) := ⟨rfl, rfl, by decide⟩
  have expanded : (Service.serving files).host.expandHome "/w" = .ok "/w" := rfl
  have canonical := canonical_serving orderly there
  obtain ⟨inner, here⟩ := there
  have vacant : files.reach .look "/w/editor.toml" = .ok (.vacant ⟨["w"], 0⟩ "editor.toml") :=
    leads_file.reach_vacant (leads_file.passable (by decide) (by decide)) (by decide)
      ⟨inner, here⟩ free
  have probed : (Service.serving files).host.probe "/w/editor.toml" Entry.isFile = .ok false := by
    unfold Host.probe FileSystem.find
    rw [show (Service.serving files).host.files.reach .look "/w/editor.toml" = _ from vacant]
    rfl
  have loaded : Config.load (Service.serving files).host "/w" = .ok {} := by
    unfold Config.load
    dsimp only
    rw [show Config.file "/w" = "/w/editor.toml" from rfl, probed]
    rfl
  unfold configure
  rw [expanded]
  dsimp only [bind, Except.bind]
  rw [canonical]
  dsimp only
  rw [loaded]
  rfl

theorem orderly_configured (data : List UInt8) : (Config.configured data).files.Orderly := by
  refine Sound.orderly ⟨?_, linkFree_of_countLinks (by simp [Config.configured, countLinks]),
    stands_root _, nofun⟩
  simp only [Config.configured, Entry.Proper]
  decide

theorem configure_configured (data : List UInt8) : configure (Config.configured data) "/w" =
    (Config.ofBytes (Config.file "/w") data).map fun config => ("/w", config) := by
  have expanded : (Config.configured data).expandHome "/w" = .ok "/w" := rfl
  have canonical : (Config.configured data).canonical "/w" = .ok "/w" :=
    canonical_serving (orderly_configured data) ⟨_, rfl⟩
  unfold configure
  rw [expanded]
  dsimp only [bind, Except.bind]
  rw [canonical]
  dsimp only
  rw [Config.load_of_read (Config.read_configured data)]
  cases Config.ofBytes (Config.file "/w") data <;> rfl

/-- What is made of the host of these files: no workspace is active yet. -/
def started (files : FileSystem) : Service :=
  { Service.serving files with statePath := "/w/editor_config.json", workspace := none }

/-- The same with its workspace active. -/
def opened (files : FileSystem) : Service :=
  { Service.serving files with statePath := "/w/editor_config.json" }

theorem create_serving (files : FileSystem) :
    Service.create (Service.serving files).host {} (some "/w") .posix = .ok (started files) := rfl

/-- A directory in which no link leads astray can be made the workspace. -/
theorem activate_w {s : Service} {inner : List (String × Entry)}
    (there : Entry.at? ["w"] s.host.files.entries = some (.directory inner)) :
    activate s (some "/w") = (.ok (), { s with workspace := some "/w" }) := by
  have leads : LeadsTo "/w" ["w"] := ⟨rfl, rfl, by decide⟩
  have found : s.host.files.find (Path.plain "/w") = .ok (⟨["w"], 0⟩, .directory inner) :=
    leads.find (leads.passable (by decide) (by decide)) there (fits_directory _ _)
  unfold activate
  dsimp only
  rw [Service.setWorkspace_of_find (by decide) found]
  rfl

theorem activate_started {files : FileSystem} {inner : List (String × Entry)}
    (there : Entry.at? ["w"] files.entries = some (.directory inner)) :
    activate (started files) (some "/w") = (.ok (), opened files) :=
  activate_w there

/-- A service is made if its state file has a place. -/
theorem create_eq (h : Host) (config : Config) (directory : String) (platform : Platform) :
    Service.create h config (some directory) platform =
      (config.statePath h directory).map fun statePath =>
        { config, platform, statePath, index := { options := config.index }, host := h } := by
  unfold Service.create
  dsimp only [bind, Except.bind, pure, Except.pure]
  cases config.statePath h directory <;> rfl

section Created

variable {h : Host} {config : Config} {directory : String} {platform : Platform} {s : Service}

/-- It starts with the place, the configuration and the host that it is made of, and nothing else. -/
theorem eq_of_create (created : Service.create h config (some directory) platform = .ok s) :
    config.statePath h directory = .ok s.statePath ∧
      s = { config, platform, statePath := s.statePath, index := { options := config.index },
            host := h } := by
  rw [create_eq] at created
  cases placed : config.statePath h directory with
  | error f =>
    rw [placed] at created
    cases created
  | ok statePath =>
    rw [placed] at created
    cases created
    exact ⟨rfl, rfl⟩

theorem create_ok (created : Service.create h config (some directory) platform = .ok s) :
    s.host = h ∧ s.config = config := by
  rw [(eq_of_create created).2]
  exact ⟨rfl, rfl⟩

end Created

/-- Without a file for the reports nothing is opened. -/
theorem openLog_none (h : Host) : openLog h {} = .ok h := rfl

/-- To open the file for the reports is to touch it, if there is to be one. -/
theorem openLog_ok {h host : Host} {config : Config} (opens : openLog h config = .ok host) :
    host = { h with files := host.files } ∧
      (host.files = h.files ∨ ∃ path, h.files.touch path = .ok host.files) := by
  unfold openLog at opens
  split at opens
  · cases opens
    exact ⟨rfl, Or.inl rfl⟩
  · dsimp only [bind, Except.bind] at opens
    split at opens
    · cases opens
    · split at opens
      · rename_i files touches
        cases opens
        exact ⟨rfl, Or.inr ⟨_, touches⟩⟩
      · cases opens

/-- So the file is made, or left as it was, and nothing else happens. -/
theorem touched_of_openLog {h host : Host} {config : Config} (orderly : h.files.Orderly)
    (opens : openLog h config = .ok host) : Touched h.files host.files := by
  obtain ⟨-, same | ⟨path, touches⟩⟩ := openLog_ok opens
  · rw [same]
    exact .same
  · exact touched_of_touch orderly touches

/-- Activating a workspace changes no file. -/
theorem activate_snd (s : Service) (root : Option String) :
    Service.SameSetup s (activate s root).2 ∧ (activate s root).2.host.files = s.host.files := by
  unfold activate
  cases root with
  | some root =>
    dsimp only
    unfold Service.setWorkspace
    split
    · exact ⟨.refl s, rfl⟩
    · exact ⟨⟨rfl, rfl, rfl, rfl⟩, rfl⟩
  | none =>
    obtain ⟨files, environment, temporary⟩ := SavedState.load_snd s.host s.statePath
    dsimp only
    unfold Service.restore
    generalize SavedState.load s.host s.statePath = loaded at files environment temporary ⊢
    obtain ⟨remembered, host⟩ := loaded
    dsimp only at files environment temporary ⊢
    split
    · exact ⟨⟨rfl, rfl, environment, temporary⟩, files⟩
    · split
      · exact ⟨⟨rfl, rfl, environment, temporary⟩, files⟩
      · exact ⟨⟨rfl, rfl, environment, temporary⟩, files⟩

/-! ## Jobs -/

/-- Settings of the toolchain are accepted as they are. -/
theorem checkSettings_ok {settings : Settings}
    (known : ∀ name ∈ settings.map (·.1), name ∈ toolchainVariables) :
    checkSettings settings = .ok settings := by
  have none_foreign : (settings.map (·.1)).filter (· ∉ toolchainVariables) = [] :=
    List.filter_eq_nil_iff.mpr fun name hname => by simpa using known name hname
  unfold checkSettings foreignVariables
  rw [none_foreign, List.mergeSort_nil]

/-- What makes a request of settings: it refuses what is not of the toolchain, and says so. -/
structure Makes {α : Type} (make : Settings → Except Failure α) (made : Settings → α) : Prop where
  ok : ∀ settings, checkSettings settings = .ok settings → make settings = .ok (made settings)
  error : ∀ settings complaints, checkSettings settings = .error complaints →
    ∃ f, make settings = .error f ∧ isShown f = true

theorem makes_runJob (code : Text.CodePoints) (path : Option String) :
    Makes (RunJob.make code path) (RunJob.mk code path) where
  ok := fun settings accepted => by
    unfold RunJob.make
    rw [accepted]
    rfl
  error := fun settings complaints refused => by
    unfold RunJob.make
    rw [refused]
    exact ⟨_, rfl, rfl⟩

theorem makes_commandJob (line : String) : Makes (CommandJob.make line) (CommandJob.mk line) where
  ok := fun settings accepted => by
    unfold CommandJob.make
    rw [accepted]
    rfl
  error := fun settings complaints refused => by
    unfold CommandJob.make
    rw [refused]
    exact ⟨_, rfl, rfl⟩

/-- A job is made of its code and its path as they are given. -/
theorem make_ok {code : Text.CodePoints} {path : Option String} {settings : Settings} {job : RunJob}
    (h : RunJob.make code path settings = .ok job) : job.code = code ∧ job.path = path := by
  unfold RunJob.make at h
  split at h
  · cases h
    exact ⟨rfl, rfl⟩
  · cases h

/-! ## Up to the launch -/

/-- What comes of the first phase of something that is run. -/
def progressOf {β : Type} (wait : β → Service → Progress) :
    Answer (Service.Phase RunResult β) → Progress
  | (.error f, s) => .ended (fail s.host f)
  | (.ok (.answered r), s) => .ended (endRun s.host r)
  | (.ok (.waiting b), s) => wait b s

theorem startRun_eq (s : Service) (file codeFile : Option String) (settings : List String)
    (root : Option String) (input : String) : startRun s file codeFile settings root input =
      match activate s root with
      | (.error f, s) => .ended (fail s.host f)
      | (.ok (), s) => match codeFrom s.host file codeFile input with
        | .error f => .ended (fail s.host f)
        | .ok code => match (settingsOf [] settings).bind (RunJob.make code file) with
          | .error f => .ended (fail s.host f)
          | .ok job => progressOf .running (s.prepareRun job none) := by
  unfold startRun runJob
  generalize activate s root = activated
  obtain ⟨f | _, s⟩ := activated
  · rfl
  · dsimp only [bind, Except.bind]
    cases codeFrom s.host file codeFile input with
    | error f => rfl
    | ok code =>
      dsimp only
      cases settingsOf [] settings with
      | error f => rfl
      | ok result =>
        dsimp only
        cases RunJob.make code file result with
        | error f => rfl
        | ok job =>
          dsimp only
          generalize s.prepareRun job none = prepared
          obtain ⟨f | r | run, s⟩ := prepared <;> rfl

theorem startCommand_eq (s : Service) (line : String) (settings : List String)
    (root : Option String) : startCommand s line settings root =
      match activate s root with
      | (.error f, s) => .ended (fail s.host f)
      | (.ok (), s) => match (settingsOf [] settings).bind (CommandJob.make line) with
        | .error f => .ended (fail s.host f)
        | .ok job => progressOf .commanding (s.prepareCommand job) := by
  unfold startCommand
  generalize activate s root = activated
  obtain ⟨f | _, s⟩ := activated
  · rfl
  · dsimp only
    cases (settingsOf [] settings).bind (CommandJob.make line) with
    | error f => rfl
    | ok job =>
      dsimp only
      generalize s.prepareCommand job = prepared
      obtain ⟨f | r | launch, s⟩ := prepared <;> rfl

section
variable {arguments settings : List String} {input directory : String}
  {file codeFile root : Option String} {h host : Host} {launch : Launch} {s : Service}

/-- Running code comes to a launch by the parts of it: a workspace is activated, the code is read,
    and the job is prepared. -/
theorem startRun_runs {made : Service}
    (launches : (startRun made file codeFile settings root input).launch? = some (launch, s)) :
    ∃ (active : Service) (job : RunJob) (run : Service.PendingRun),
      active.host.files = made.host.files ∧
      codeFrom active.host file codeFile input = .ok job.code ∧ job.path = file ∧
      active.prepareRun job none = (.ok (.waiting run), s) ∧
      startRun made file codeFile settings root input = .running run s := by
  rw [startRun_eq] at launches ⊢
  have same := (activate_snd made root).2
  generalize activate made root = activated at launches same ⊢
  obtain ⟨f | _, active⟩ := activated
  · cases launches
  dsimp only at launches same ⊢
  rcases read : codeFrom active.host file codeFile input with f | code
  · rw [read] at launches
    cases launches
  rw [read] at launches
  dsimp only at launches ⊢
  rcases is_job : (settingsOf [] settings).bind (RunJob.make code file) with f | job
  · rw [is_job] at launches
    cases launches
  rw [is_job] at launches
  dsimp only at launches ⊢
  obtain ⟨rfl, rfl⟩ : job.code = code ∧ job.path = file := by
    cases set : settingsOf [] settings with
    | error f =>
      rw [set] at is_job
      cases is_job
    | ok result =>
      rw [set] at is_job
      exact make_ok is_job
  rcases prepared : active.prepareRun job none with ⟨f | answered | run, after⟩
  · rw [prepared] at launches
    cases launches
  · rw [prepared] at launches
    cases launches
  · rw [prepared] at launches
    cases launches
    exact ⟨active, job, run, same, read, rfl, prepared, rfl⟩

/-! ## From the command line -/

/-- A configured program carries its request out. -/
theorem start_configured {invocation : Invocation} {place : String} {config : Config}
    (parsed : Invocation.parse arguments = .ok invocation)
    (configured : configure h invocation.configDirectory = .ok (place, config))
    (opens : openLog h config = .ok host) :
    (start arguments input h).2 = carryOut host config place invocation.request input := by
  unfold start startBy
  rw [parsed]
  dsimp only
  rw [configured]
  dsimp only
  rw [opens]

/-- A program that comes to a launch is configured. -/
theorem configured_of_launch {invocation : Invocation}
    (parsed : Invocation.parse arguments = .ok invocation)
    (launches : (start arguments input h).2.launch? = some (launch, s)) :
    ∃ place config host, configure h invocation.configDirectory = .ok (place, config) ∧
      openLog h config = .ok host := by
  unfold start startBy at launches
  rw [parsed] at launches
  dsimp only at launches
  split at launches
  · cases launches
  · cases launches
  · rename_i place config configured
    split at launches
    · cases launches
    · rename_i host opens
      exact ⟨place, config, host, configured, opens⟩

/-- A command to run code that waits for a child has made a service over the files there are, but for
    that of the reports, and come to its launch. -/
theorem start_runs (orderly : h.files.Orderly)
    (parsed : Invocation.parse arguments = .ok ⟨directory, .run file codeFile settings root⟩)
    (launches : (start arguments input h).2.launch? = some (launch, s)) :
    ∃ (active : Service) (job : RunJob) (run : Service.PendingRun),
      Touched h.files active.host.files ∧
      codeFrom active.host file codeFile input = .ok job.code ∧ job.path = file ∧
      active.prepareRun job none = (.ok (.waiting run), s) ∧
      (start arguments input h).2 = .running run s := by
  obtain ⟨place, config, host, configured, opens⟩ := configured_of_launch parsed launches
  have touched := touched_of_openLog orderly opens
  rw [start_configured parsed configured opens] at launches ⊢
  unfold carryOut at launches ⊢
  dsimp only at launches ⊢
  split at launches
  · cases launches
  · rename_i made created
    obtain ⟨active, job, run, same, rest⟩ := startRun_runs launches
    refine ⟨active, job, run, ?_, rest⟩
    rw [same, (create_ok created).1]
    exact touched

end

end GoWorkbench.CommandLine
