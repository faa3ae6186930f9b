/-
  What the status of the program says.

  A request that reaches its service keeps the contract.  Before it does, the program is configured,
  opens the file for the reports and makes the service, and a list of symbols needs no service; any
  of these can fail without a status.

  1. **Hindrances** — what keeps the program from a status (`Hindered`).
  2. **Stages** — the program keeps the contract where it is not configured
     (`start_unconfigured`), where its reports have no file (`start_unopened`), where it lists
     symbols (`start_lists`), where its state file has no place (`start_unplaced`) and where it
     serves any other request (`start_serves`).
  3. **Statuses** — so it keeps the contract in all (`statuses_told`).
  4. **Without a status** — and there are hindrances of most kinds (`statuses_withheld`).
-/
import GoWorkbench.Proofs.CommandLine.Listing
import GoWorkbench.Proofs.CommandLine.Requests

namespace GoWorkbench.CommandLine

open FileSystem GoWorkbench.Text

variable {s : Service} {h host : Host} {f : Failure} {input : String} {ending : Ending}
  {request : Request} {config : Config} {directory place root : String} {arguments : List String}
  {invocation : Invocation}

/-! ## Hindrances -/

/-- The service that a request reaches. -/
def Reaches (h : Host) (directory : String) (s : Service) : Prop :=
  ∃ place config host, configure h directory = .ok (place, config) ∧
    openLog h config = .ok host ∧ Service.create host config (some place) .posix = .ok s

/-- The symbols below a root. -/
def symbolsOf (h : Host) (config : Config) (root : String) : Except Failure (List Go.Symbol) :=
  ((h.expandHome root).bind h.canonical).bind (Scan.symbols h config.index)

/-- What keeps the program from a status: its configuration is not loaded, and that is no fault of
    the configuration; or the file for the reports cannot be opened; or the root of a list has no
    link-free form, or cannot be scanned, or a source in it has a path that is no text; or the state
    file has no place; or the request is hindered. -/
inductive Hindered (h : Host) (input : String) : Invocation → Failure → Prop
  | configuration {directory : String} {request : Request} {f : Failure}
      (breaks : configure h directory = .error f) (other : ∀ fault, f ≠ .config fault) :
      Hindered h input ⟨directory, request⟩ f
  | log {directory place : String} {request : Request} {config : Config} {f : Failure}
      (configured : configure h directory = .ok (place, config))
      (unopened : openLog h config = .error f) : Hindered h input ⟨directory, request⟩ f
  | list {directory place root : String} {config : Config} {host : Host} {f : Failure}
      (configured : configure h directory = .ok (place, config))
      (opens : openLog h config = .ok host) (breaks : symbolsOf host config root = .error f) :
      Hindered h input ⟨directory, .symbols root⟩ f
  | listed {directory place root : String} {config : Config} {host : Host}
      {symbols : List Go.Symbol} {s : Go.Symbol}
      (configured : configure h directory = .ok (place, config))
      (opens : openLog h config = .ok host) (goes : symbolsOf host config root = .ok symbols)
      (listed : s ∈ symbols) (garbled : host.isText s.path = false) :
      Hindered h input ⟨directory, .symbols root⟩ .halfCharacter
  | state {directory place : String} {request : Request} {config : Config} {host : Host}
      {f : Failure} (configured : configure h directory = .ok (place, config))
      (opens : openLog h config = .ok host) (serves : ∀ root, request ≠ .symbols root)
      (unplaced : config.statePath host place = .error f) : Hindered h input ⟨directory, request⟩ f
  | request {directory : String} {request : Request} {s : Service} {f : Failure}
      (reaches : Reaches h directory s) (hinders : Hinders s input request f) :
      Hindered h input ⟨directory, request⟩ f

/-- What rejects a program: a fault of its configuration, or a request that is not valid. -/
def Rejects (h : Host) (invocation : Invocation) : Prop :=
  (∃ fault, configure h invocation.configDirectory = .error (.config fault)) ∨
    ∃ s, Reaches h invocation.configDirectory s ∧ ¬ Valid s invocation.request

/-- The request has reached its service and misses what it was made for. -/
def Misled (h : Host) (invocation : Invocation) (input : String) (ending : Ending) : Prop :=
  ∃ s, Reaches h invocation.configDirectory s ∧ Misses s input ending invocation.request

theorem not_reaches_of_unconfigured (breaks : configure h directory = .error f) :
    ¬ Reaches h directory s := by
  rintro ⟨place, config, host, configured, -⟩
  rw [breaks] at configured
  cases configured

section Configured
variable (configured : configure h directory = .ok (place, config))
include configured

theorem not_reaches_of_unopened (unopened : openLog h config = .error f) :
    ¬ Reaches h directory s := by
  rintro ⟨place', config', host, again, opens, -⟩
  rw [configured] at again
  cases again
  rw [unopened] at opens
  cases opens

/-- The program is configured in one way, and opens the file for its reports once. -/
theorem opened_once {place' : String} {config' : Config} {host' : Host}
    (opens : openLog h config = .ok host) (again : configure h directory = .ok (place', config'))
    (opens' : openLog h config' = .ok host') : place' = place ∧ config' = config ∧ host' = host := by
  rw [configured] at again
  cases again
  rw [opens] at opens'
  cases opens'
  exact ⟨rfl, rfl, rfl⟩

theorem reaches_iff (opens : openLog h config = .ok host) :
    Reaches h directory s ↔ Service.create host config (some place) .posix = .ok s := by
  constructor
  · rintro ⟨place', config', host', again, opens', created⟩
    obtain ⟨rfl, rfl, rfl⟩ := opened_once configured opens again opens'
    exact created
  · exact fun created => ⟨place, config, host, configured, opens, created⟩

/-- Once the program is configured, only the request can be rejected. -/
theorem rejects_iff : Rejects h ⟨directory, request⟩ ↔
    ∃ s, Reaches h directory s ∧ ¬ Valid s request := by
  refine or_iff_right ?_
  rintro ⟨fault, breaks⟩
  rw [configured] at breaks
  cases breaks

/-- Where the reports have no file, that hinders the program, and nothing else. -/
theorem hindered_unopened_iff {g : Failure} (unopened : openLog h config = .error f) :
    Hindered h input ⟨directory, request⟩ g ↔ f = g := by
  constructor
  · intro hindered
    cases hindered with
    | configuration breaks =>
      rw [configured] at breaks
      cases breaks
    | request reaches => exact absurd reaches (not_reaches_of_unopened configured unopened)
    | log again fails =>
      rw [configured] at again
      cases again
      rw [unopened] at fails
      exact Except.error.inj fails
    | list again opens | listed again opens | state again opens =>
      rw [configured] at again
      cases again
      rw [unopened] at opens
      cases opens
  · rintro rfl
    exact .log configured unopened

/-- A list is hindered only by what it does itself. -/
theorem hindered_symbols_iff (opens : openLog h config = .ok host) :
    Hindered h input ⟨directory, .symbols root⟩ f ↔ symbolsOf host config root = .error f ∨
      f = .halfCharacter ∧ ∃ symbols, symbolsOf host config root = .ok symbols ∧
        ∃ s ∈ symbols, host.isText s.path = false := by
  constructor
  · intro hindered
    cases hindered with
    | configuration breaks =>
      rw [configured] at breaks
      cases breaks
    | log again unopened =>
      rw [configured] at again
      cases again
      rw [opens] at unopened
      cases unopened
    | list again opens' breaks =>
      obtain ⟨rfl, rfl, rfl⟩ := opened_once configured opens again opens'
      exact Or.inl breaks
    | listed again opens' goes listed garbled =>
      obtain ⟨rfl, rfl, rfl⟩ := opened_once configured opens again opens'
      exact Or.inr ⟨rfl, _, goes, _, listed, garbled⟩
    | state _ _ serves => exact absurd rfl (serves root)
    | request _ hinders => cases hinders
  · rintro (breaks | ⟨rfl, symbols, goes, s, listed, garbled⟩)
    · exact .list configured opens breaks
    · exact .listed configured opens goes listed garbled

/-- And any other request by its state file, or by what hinders it itself. -/
theorem hindered_served_iff (opens : openLog h config = .ok host)
    (serves : ∀ root, request ≠ .symbols root) : Hindered h input ⟨directory, request⟩ f ↔
      config.statePath host place = .error f ∨
        ∃ s, Service.create host config (some place) .posix = .ok s ∧ Hinders s input request f := by
  constructor
  · intro hindered
    cases hindered with
    | configuration breaks =>
      rw [configured] at breaks
      cases breaks
    | log again unopened =>
      rw [configured] at again
      cases again
      rw [opens] at unopened
      cases unopened
    | list | listed => exact absurd rfl (serves _)
    | state again opens' _ unplaced =>
      obtain ⟨rfl, rfl, rfl⟩ := opened_once configured opens again opens'
      exact Or.inl unplaced
    | request reaches hinders =>
      exact Or.inr ⟨_, (reaches_iff configured opens).mp reaches, hinders⟩
  · rintro (unplaced | ⟨s, created, hinders⟩)
    · exact .state configured opens serves unplaced
    · exact .request ((reaches_iff configured opens).mpr created) hinders

end Configured

/-! ## Stages -/

/-- Where the program is not configured, it is hindered by just that, unless it is a fault of the
    configuration. -/
theorem hindered_unconfigured_iff {g : Failure}
    (breaks : configure h invocation.configDirectory = .error f) :
    Hindered h input invocation g ↔ f = g ∧ ∀ fault, f ≠ .config fault := by
  constructor
  · intro hindered
    cases hindered with
    | configuration again other =>
      rw [breaks] at again
      cases again
      exact ⟨rfl, other⟩
    | request reaches => exact absurd reaches (not_reaches_of_unconfigured breaks)
    | log configured | list configured | listed configured | state configured =>
      rw [breaks] at configured
      cases configured
  · rintro ⟨rfl, other⟩
    exact .configuration breaks other

theorem start_unconfigured (parsed : Invocation.parse arguments = .ok invocation)
    (breaks : configure h invocation.configDirectory = .error f) :
    Contract (start arguments input h).2 ending (Hindered h input invocation)
      (Misled h invocation input ending) (Rejects h invocation) := by
  have unreached : ∀ s, ¬ Reaches h invocation.configDirectory s :=
    fun _ => not_reaches_of_unconfigured breaks
  have hinders : ∀ g, Hindered h input invocation g ↔ f = g ∧ ∀ fault, f ≠ .config fault :=
    fun _ => hindered_unconfigured_iff breaks
  have no_miss : ¬ Misled h invocation input ending := fun ⟨s, reaches, _⟩ => unreached s reaches
  unfold start startBy
  rw [parsed]
  dsimp only
  rw [breaks]
  -- a fault of the configuration is shown, any other failure breaks the program off
  by_cases known : ∃ fault, f = .config fault
  · obtain ⟨fault, rfl⟩ := known
    exact .of_refused _ (fun g hindered => ((hinders g).mp hindered).2 fault rfl) no_miss
      (Or.inl ⟨fault, breaks⟩)
  · have other : ∀ fault, f ≠ .config fault := fun fault is => known ⟨fault, is⟩
    have accepted : ¬ Rejects h invocation := by
      rintro (⟨fault, again⟩ | ⟨s, reaches, -⟩)
      · rw [breaks] at again
        exact other fault (Except.error.inj again)
      · exact unreached s reaches
    split
    · rename_i fault is
      exact absurd (Except.error.inj is) (other fault)
    · rename_i g _ is
      cases is
      exact .of_broken rfl (fun g => (hinders g).trans (and_iff_left other)) no_miss accepted
    · rename_i is
      cases is

/-- Where the reports have no file, it breaks off. -/
theorem start_unopened (parsed : Invocation.parse arguments = .ok ⟨directory, request⟩)
    (configured : configure h directory = .ok (place, config))
    (unopened : openLog h config = .error f) :
    Contract (start arguments input h).2 ending (Hindered h input ⟨directory, request⟩)
      (Misled h ⟨directory, request⟩ input ending) (Rejects h ⟨directory, request⟩) := by
  have unreached : ∀ s, ¬ Reaches h directory s :=
    fun _ => not_reaches_of_unopened configured unopened
  have breaks : (start arguments input h).2 = .ended { status := .error f, host := h } := by
    unfold start startBy
    rw [parsed]
    dsimp only
    rw [configured]
    dsimp only
    rw [unopened]
  rw [breaks]
  refine .of_broken rfl (fun _ => hindered_unopened_iff configured unopened) ?_ ?_
  · rintro ⟨s, reaches, -⟩
    exact unreached s reaches
  · rw [rejects_iff configured]
    rintro ⟨s, reaches, -⟩
    exact unreached s reaches

/-- What a list ends with. -/
theorem listSymbols_status (h : Host) (config : Config) (root : String) :
    match symbolsOf h config root with
    | .error f => (listSymbols h config root).status = .error f
    | .ok symbols =>
      ((∀ s ∈ symbols, h.isText s.path = true) → (listSymbols h config root).status = .ok 0) ∧
      ((∃ s ∈ symbols, h.isText s.path = false) →
        (listSymbols h config root).status = .error .halfCharacter) := by
  unfold symbolsOf
  rcases leads : (h.expandHome root).bind h.canonical with f | top
  · have lost : (do h.canonical (← h.expandHome root)) = Except.error f := leads
    show (listSymbols h config root).status = .error f
    unfold listSymbols
    rw [lost]
  · rcases scanned : Scan.symbols h config.index top with f | symbols
    · have found : (do h.canonical (← h.expandHome root)) = Except.ok top := leads
      obtain ⟨index, after, rebuilt, -⟩ := rebuild_first h config.index top
      rw [show (Except.ok top).bind (Scan.symbols h config.index) = _ from scanned]
      show (listSymbols h config root).status = .error f
      unfold listSymbols
      rw [found]
      dsimp only
      rw [rebuilt, scanned]
      rfl
    · rw [show (Except.ok top).bind (Scan.symbols h config.index) = _ from scanned]
      obtain ⟨after, names, is⟩ := listSymbols_of_scan leads scanned
      have texts : ∀ path, after.isText path = h.isText path := fun _ => isText_of_garbled names
      dsimp only
      rw [is]
      refine ⟨fun all => endList_status fun s listed => (texts _).trans (all s listed), ?_⟩
      rintro ⟨s, listed, garbled⟩
      exact endList_broken listed ((texts _).trans garbled)

/-- A list of symbols goes well, if it is not hindered. -/
theorem start_lists (parsed : Invocation.parse arguments = .ok ⟨directory, .symbols root⟩)
    (configured : configure h directory = .ok (place, config))
    (opens : openLog h config = .ok host) :
    Contract (start arguments input h).2 ending (Hindered h input ⟨directory, .symbols root⟩)
      (Misled h ⟨directory, .symbols root⟩ input ending) (Rejects h ⟨directory, .symbols root⟩) := by
  have status := listSymbols_status host config root
  have hinders := fun f => @hindered_symbols_iff h host f input config directory place root configured
    opens
  have no_miss : ¬ Misled h ⟨directory, .symbols root⟩ input ending := by
    rintro ⟨s, -, ⟨⟩⟩
  have accepted : ¬ Rejects h ⟨directory, .symbols root⟩ := by
    rw [rejects_iff configured]
    rintro ⟨s, -, invalid⟩
    exact invalid trivial
  rw [start_configured parsed configured opens]
  show Contract (.ended (listSymbols host config root)) _ _ _ _
  rcases scanned : symbolsOf host config root with f | symbols
  · rw [scanned] at status hinders
    refine .of_broken status (fun g => (hinders g).trans ?_) no_miss accepted
    simp
  · rw [scanned] at status hinders
    by_cases texts : ∀ s ∈ symbols, host.isText s.path = true
    · refine .of_done (status.1 texts) (fun g hindered => ?_) no_miss accepted
      obtain broken | ⟨-, _, ⟨⟩, s, listed, garbled⟩ := (hinders g).mp hindered
      · cases broken
      · rw [texts s listed] at garbled
        cases garbled
    · obtain ⟨s, listed, garbled⟩ : ∃ s ∈ symbols, host.isText s.path = false := by
        simpa only [not_forall, exists_prop, Bool.not_eq_true] using texts
      refine .of_broken (status.2 ⟨s, listed, garbled⟩) (fun g => (hinders g).trans ?_) no_miss
        accepted
      constructor
      · rintro (⟨⟨⟩⟩ | ⟨rfl, -⟩)
        rfl
      · rintro rfl
        exact Or.inr ⟨rfl, symbols, rfl, s, listed, garbled⟩

/-- A request that reaches its service keeps the contract. -/
theorem carryOut_keeps (orderly : h.files.Orderly) (plain : ending.Plain)
    (created : Service.create h config (some place) .posix = .ok s)
    (serves : ∀ root, request ≠ .symbols root) :
    Keeps s input ending request (carryOut h config place request input) := by
  have fresh : s.workspace = none := by
    rw [(eq_of_create created).2]
  have orderly : s.host.files.Orderly := by
    rw [(create_ok created).1]
    exact orderly
  unfold carryOut
  cases request with
  | symbols root => exact absurd rfl (serves root)
  | resolve base specifier root =>
    dsimp only
    rw [created]
    exact findImport_keeps orderly fresh base specifier
  | locate goroot =>
    dsimp only
    rw [created]
    exact locate_keeps orderly goroot
  | run file codeFile settings root =>
    dsimp only
    rw [created]
    exact startRun_keeps orderly fresh plain
  | command line settings root =>
    dsimp only
    rw [created]
    exact startCommand_keeps orderly fresh plain
  | report goroot =>
    dsimp only
    rw [created]
    exact report_keeps orderly plain goroot
  | workspace path =>
    dsimp only
    rw [created]
    exact setWorkspace_keeps orderly fresh path

/-- Without a service the program breaks off. -/
theorem carryOut_unserved (unmade : Service.create h config (some place) .posix = .error f)
    (serves : ∀ root, request ≠ .symbols root) :
    carryOut h config place request input = .ended { status := .error f, host := h } := by
  unfold carryOut
  cases request with
  | symbols root => exact absurd rfl (serves root)
  | resolve | locate | run | command | report | workspace =>
    dsimp only
    rw [unmade]

/-- Where the state file has no place, any other request breaks off. -/
theorem start_unplaced (parsed : Invocation.parse arguments = .ok ⟨directory, request⟩)
    (configured : configure h directory = .ok (place, config))
    (opens : openLog h config = .ok host) (serves : ∀ root, request ≠ .symbols root)
    (unplaced : config.statePath host place = .error f) :
    Contract (start arguments input h).2 ending (Hindered h input ⟨directory, request⟩)
      (Misled h ⟨directory, request⟩ input ending) (Rejects h ⟨directory, request⟩) := by
  have unmade : Service.create host config (some place) .posix = .error f := by
    rw [create_eq, unplaced]
    rfl
  have unreached : ∀ s, ¬ Reaches h directory s := by
    intro s reached
    rw [reaches_iff configured opens, unmade] at reached
    cases reached
  rw [start_configured parsed configured opens]
  show Contract (carryOut host config place request input) _ _ _ _
  rw [carryOut_unserved unmade serves]
  refine .of_broken rfl (fun g => (hindered_served_iff configured opens serves).trans ?_) ?_ ?_
  · rw [unplaced, unmade]
    simp
  · rintro ⟨s, reached, -⟩
    exact unreached s reached
  · rw [rejects_iff configured]
    rintro ⟨s, reached, -⟩
    exact unreached s reached

/-- Else it is carried out by its service. -/
theorem start_serves {statePath : String} (orderly : h.files.Orderly) (plain : ending.Plain)
    (parsed : Invocation.parse arguments = .ok ⟨directory, request⟩)
    (configured : configure h directory = .ok (place, config))
    (opens : openLog h config = .ok host) (serves : ∀ root, request ≠ .symbols root)
    (placed : config.statePath host place = .ok statePath) :
    Contract (start arguments input h).2 ending (Hindered h input ⟨directory, request⟩)
      (Misled h ⟨directory, request⟩ input ending) (Rejects h ⟨directory, request⟩) := by
  obtain ⟨s, made⟩ : ∃ s, Service.create host config (some place) .posix = .ok s := by
    rw [create_eq, placed]
    exact ⟨_, rfl⟩
  have only : ∀ t, Reaches h directory t ↔ t = s := fun t => by
    rw [reaches_iff configured opens, made]
    exact ⟨fun is => (Except.ok.inj is).symm, fun is => congrArg Except.ok is.symm⟩
  have orderly_host := (touched_of_openLog orderly opens).orderly orderly
  rw [start_configured parsed configured opens]
  refine (carryOut_keeps orderly_host plain made serves).of_iff
    (fun f => (hindered_served_iff configured opens serves).trans ?_) ?_ ?_
  · rw [placed, made]
    constructor
    · rintro (broken | ⟨_, ⟨⟩, hindered⟩)
      · cases broken
      · exact hindered
    · exact fun hindered => Or.inr ⟨_, rfl, hindered⟩
  · show (∃ t, Reaches h directory t ∧ Misses t input ending request) ↔ _
    simp only [only, exists_eq_left]
  · rw [rejects_iff configured]
    simp only [only, exists_eq_left]

/-! ## Statuses -/

/-- **Statuses**: over every file system, whatever the input is and however the child ends, the
    program ends with the status 1 just if it misses what it was made for, and with 2 just if its
    configuration or its request is rejected, when it writes nothing and launches nothing; any other
    status is 0; and where there is none, one of the failures that are not shown has hindered it. -/
theorem statuses_told (parsed : Invocation.parse arguments = .ok invocation)
    (orderly : h.files.Orderly) (plain : ending.Plain) :
    Contract (start arguments input h).2 ending (Hindered h input invocation)
      (Misled h invocation input ending) (Rejects h invocation) := by
  cases configured : configure h invocation.configDirectory with
  | error f => exact start_unconfigured parsed configured
  | ok found =>
    obtain ⟨place, config⟩ := found
    obtain ⟨directory, request⟩ := invocation
    rcases opens : openLog h config with f | host
    · exact start_unopened parsed configured opens
    by_cases list : ∃ root, request = .symbols root
    · obtain ⟨root, rfl⟩ := list
      exact start_lists parsed configured opens
    have serves : ∀ root, request ≠ .symbols root := fun root is => list ⟨root, is⟩
    rcases placed : config.statePath host place with f | statePath
    · exact start_unplaced parsed configured opens serves placed
    · exact start_serves orderly plain parsed configured opens serves placed

/-- A blank command line. -/
def blank : List String := ["--config-dir", "/w", "cmd", "", "--root", "/w"]

/-- A workspace without a path. -/
def nowhere : List String := ["--config-dir", "/w", "workspace", ""]

/-- The status of the program with these arguments, without input and with a child that goes well. -/
def statusOf (arguments : List String) (h : Host) : Except Failure Nat :=
  ((start arguments "" h).2.finish (.exited 0 [])).status

theorem statuses_told_blank : Service.oneFile.Orderly ∧ Ending.Plain (.exited 0 []) ∧
    statusOf blank (Service.serving Service.oneFile).host = .ok 1 ∧
    statusOf nowhere (Service.serving Service.oneFile).host = .ok 2 := by
  have orderly := Service.orderly_oneFile
  have plain : Ending.Plain (.exited 0 []) := fun _ is => nomatch is
  have configured := configure_serving orderly ⟨_, rfl⟩ rfl
  have reaches : Reaches (Service.serving Service.oneFile).host "/w" (started Service.oneFile) :=
    ⟨"/w", {}, _, configured, openLog_none _, create_serving Service.oneFile⟩
  have blank_parses : Invocation.parse blank = .ok ⟨"/w", .command "" [] (some "/w")⟩ := rfl
  have nowhere_parses : Invocation.parse nowhere = .ok ⟨"/w", .workspace ""⟩ := rfl
  have told := @statuses_told (Service.serving Service.oneFile).host "" (.exited 0 []) blank _
    blank_parses orderly plain
  have told' := @statuses_told (Service.serving Service.oneFile).host "" (.exited 0 []) nowhere _
    nowhere_parses orderly plain
  refine ⟨orderly, plain, told.one.mpr ⟨_, reaches, ?_⟩, told'.two.mpr (Or.inr ⟨_, reaches, ?_⟩)⟩
  · have activates : activate (started Service.oneFile) (some "/w") =
      (.ok (), opened Service.oneFile) := activate_started rfl
    have made : (settingsOf [] []).bind (CommandJob.make "") = .ok ⟨"", []⟩ :=
      (makes_commandJob "").ok [] (checkSettings_ok nofun)
    exact .command activates made rfl nofun
  · exact fun valid => valid.1.1 rfl

/-! ## Without a status -/

def stateText : List Char := "state_file='~nosuch'".toList

theorem ofText_stateText :
    Config.ofText (Config.file "/w") stateText = .ok { stateFile := "~nosuch" } := by
  unfold Config.ofText
  rw [show Toml.read stateText = .ok [("state_file", .text "~nosuch")] from
    Config.read_of_isEntry (by decide +kernel)]
  rfl

/-- A configuration whose file for the reports is in a directory that is not there. -/
def strayLogText : List Char := "log_file='/no/x'".toList

theorem ofText_strayLogText :
    Config.ofText (Config.file "/w") strayLogText = .ok { logFile := some "/no/x" } := by
  unfold Config.ofText
  rw [show Toml.read strayLogText = .ok [("log_file", .text "/no/x")] from
    Config.read_of_isEntry (by decide +kernel)]
  rfl

theorem openLog_stray (data : List UInt8) :
    openLog (Config.configured data) { logFile := some "/no/x" } =
      .error (.refused .missing "/no/x") := by
  have lost : ∀ purpose, (Config.configured data).files.reach purpose "/no/x" = .error .missing := by
    intro purpose
    have passable : Passable "/no/x" :=
      (⟨rfl, rfl, by decide⟩ : LeadsTo "/no/x" ["no", "x"]).passable (by decide) (by decide)
    have free : Entry.child? "no" ((Config.configured data).files.entriesAt .root) = none := rfl
    rw [reach_of_passable passable.no_nul (by decide) passable.short, if_pos (by decide),
      show components "/no/x" = ["no", "x"] from rfl, walk, if_neg (by decide), if_neg (by decide),
      if_neg (by simp), if_neg (by decide), free]
    rfl
  have irregular : (Config.configured data).files.isRegular "/no/x" = false := by
    unfold isRegular existsAt FileSystem.find
    rw [lost]
    rfl
  have fails : (Config.configured data).files.touch "/no/x" = .error .missing := by
    unfold touch FileSystem.write
    rw [irregular, lost]
    rfl
  have absolute : (Config.configured data).absolute "/no/x" = .ok "/no/x" := rfl
  unfold openLog
  dsimp only [Option.filter, bind, Except.bind]
  rw [if_pos (by decide)]
  dsimp only
  rw [absolute]
  dsimp only
  rw [fails]

/-- **Without a status** the program breaks off for a configuration file that is no text, for a home
    directory that is not known in the name of the directory of the configuration or in the root of
    a list, for one in the name of the state file, and for a file for the reports that cannot be
    opened. -/
theorem statuses_withheld :
    (∃ fault, statusOf ["--config-dir", "/w", "locate"] (Config.configured [0xFF]) =
      .error (.undecodable fault)) ∧
    statusOf ["--config-dir", "~nosuch", "locate"] (Service.serving Service.oneFile).host =
      .error .homeless ∧
    statusOf ["--config-dir", "/w", "symbols", "~nosuch"] (Service.serving Service.oneFile).host =
      .error .homeless ∧
    statusOf ["--config-dir", "/w", "locate"] (Config.configured (Utf8.encode stateText)) =
      .error .homeless ∧
    statusOf ["--config-dir", "/w", "locate"] (Config.configured (Utf8.encode strayLogText)) =
      .error (.refused .missing "/no/x") := by
  have parsed : Invocation.parse ["--config-dir", "/w", "locate"] = .ok ⟨"/w", .locate none⟩ := rfl
  refine ⟨?_, ?_, ?_, ?_, ?_⟩
  · have breaks : ∃ fault, configure (Config.configured [0xFF]) "/w" =
        .error (.undecodable fault) := by
      rw [configure_configured]
      exact ⟨_, rfl⟩
    obtain ⟨fault, breaks⟩ := breaks
    exact ⟨fault, ((start_unconfigured parsed breaks).breaks _).mpr (.configuration breaks nofun)⟩
  · have parsed : Invocation.parse ["--config-dir", "~nosuch", "locate"] =
      .ok ⟨"~nosuch", .locate none⟩ := rfl
    have breaks : configure (Service.serving Service.oneFile).host "~nosuch" = .error .homeless :=
      rfl
    exact ((start_unconfigured parsed breaks).breaks _).mpr (.configuration breaks nofun)
  · have parsed : Invocation.parse ["--config-dir", "/w", "symbols", "~nosuch"] =
      .ok ⟨"/w", .symbols "~nosuch"⟩ := rfl
    have configured := configure_serving Service.orderly_oneFile ⟨_, rfl⟩ rfl
    exact ((start_lists parsed configured (openLog_none _)).breaks _).mpr
      (.list configured (openLog_none _) rfl)
  · have configured : configure (Config.configured (Utf8.encode stateText)) "/w" =
        .ok ("/w", { stateFile := "~nosuch" }) := by
      rw [configure_configured, Config.ofBytes_encode, ofText_stateText]
      rfl
    have serves : ∀ root, Request.locate none ≠ .symbols root := fun _ => Request.noConfusion
    have opens : openLog (Config.configured (Utf8.encode stateText)) { stateFile := "~nosuch" } =
        .ok (Config.configured (Utf8.encode stateText)) := rfl
    exact ((start_unplaced parsed configured opens serves rfl).breaks _).mpr
      (.state configured opens serves rfl)
  · have configured : configure (Config.configured (Utf8.encode strayLogText)) "/w" =
        .ok ("/w", { logFile := some "/no/x" }) := by
      rw [configure_configured, Config.ofBytes_encode, ofText_strayLogText]
      rfl
    exact ((start_unopened parsed configured (openLog_stray _)).breaks _).mpr
      (.log configured (openLog_stray _))

end GoWorkbench.CommandLine
