/-
  From the settings of the command line to the variables of the child.

  One argument that assigns nothing to a variable of the toolchain is enough for the request to be
  rejected, before anything is written or launched.

  1. **Requests** — the two commands that take settings.  Without faults they come as far as they
     would without settings (`Errand.goesOn`); otherwise they are rejected (`Errand.rejected`).
  2. **Confinement** — what the child gets: the variables of its process, those of the toolchain
     apart, and no variable is taken away (`settings_confined`).
  3. **Reports** — the file for the reports is made before any argument is looked at
     (`rejection_leaves_log`).
-/
import GoWorkbench.Proofs.CommandLine.Assignments

namespace GoWorkbench.CommandLine

open FileSystem GoWorkbench.Text

variable {arguments : List String} {settings result : Settings}

/-! ## Requests -/

/-- The commands that take settings, without these. -/
inductive Errand
  | run (file codeFile root : Option String)
  | command (line : String) (root : Option String)

namespace Errand

/-- The errand with the settings given. -/
def request : Errand → List String → Request
  | run file codeFile root, settings => .run file codeFile settings root
  | command line root, settings => .command line settings root

/-- Goes as far as the launch. -/
def start (errand : Errand) (s : Service) (settings : List String) (input : String) : Progress :=
  match errand with
  | run file codeFile root => startRun s file codeFile settings root input
  | command line root => startCommand s line settings root

theorem carryOut_eq (errand : Errand) (h : Host) (config : Config) (directory : String)
    (settings : List String) (input : String) :
    carryOut h config directory (errand.request settings) input =
      match Service.create h config (some directory) .posix with
      | .error f => .ended { status := .error f, host := h }
      | .ok s => errand.start s settings input := by
  unfold carryOut
  cases errand <;> dsimp only [request] <;>
    cases Service.create h config (some directory) .posix <;> rfl

end Errand

/-- The program has ended otherwise than a command ends that has been tried. -/
def Refused (progress : Progress) : Prop :=
  ∃ e, progress = .ended e ∧ e.status ≠ .ok 0 ∧ e.status ≠ .ok 1

/-- The request has been rejected: nothing is launched, and no file has changed.  The host is the
    one that the request starts from, where the file of the reports is open already. -/
def Rejected (h : Host) (progress : Progress) : Prop :=
  ∃ e, progress = .ended e ∧ e.status = .ok 2 ∧ e.host.files = h.files

theorem refused_of_rejected {h : Host} {progress : Progress} (rejected : Rejected h progress) :
    Refused progress := by
  obtain ⟨e, is, status, -⟩ := rejected
  refine ⟨e, is, ?_, ?_⟩ <;> rw [status] <;> exact nofun

theorem refused_fail (h : Host) (f : Failure) : Refused (.ended (fail h f)) := by
  refine ⟨_, rfl, ?_, ?_⟩ <;> unfold fail <;> split <;> exact nofun

theorem rejected_fail {h host : Host} {f : Failure} (shown : isShown f = true)
    (same : host.files = h.files) : Rejected h (.ended (fail host f)) := by
  refine ⟨_, rfl, ?_, ?_⟩ <;> unfold fail <;> rw [if_pos shown]
  · rfl
  · exact same

theorem not_refused_endRun (h : Host) (r : RunResult) : ¬ Refused (.ended (endRun h r)) := by
  rintro ⟨e, is, not_zero, not_one⟩
  obtain rfl := Progress.ended.inj is
  unfold endRun at not_zero not_one
  split at not_zero <;> rename_i is
  · exact not_zero rfl
  · rw [is] at not_one
    exact not_one rfl

/-- With an argument at fault no request is made. -/
theorem Makes.refuses {α : Type} {make : Settings → Except Failure α} {made : Settings → α}
    (makes : Makes make made) {faulty : String} (listed : faulty ∈ arguments)
    (fault : Faulty faulty) :
    ∃ f, (settingsOf [] arguments).bind make = .error f ∧ isShown f = true := by
  rcases settings_refused listed fault with
    ⟨argument, malformed⟩ | ⟨result, complaints, is, refused⟩
  · rw [malformed]
    exact ⟨_, rfl, rfl⟩
  · rw [is]
    exact makes.error result complaints refused

/-- How far a request comes with settings, compared with how far it comes without. -/
structure Sequel (s : Service) (settings : Settings) (bare progress : Progress) : Prop where
  accepted : ¬ Refused progress
  launches : progress.launch?.isSome = bare.launch?.isSome
  environment : ∀ launch after, progress.launch? = some (launch, after) →
    launch.environment = childVariables s.host (s.withRoot settings)

/-- A request whose first phase comes as far as without settings. -/
theorem sequel_of_phases {β : Type} {s : Service} {wait : β → Service → Progress}
    (launchOf : β → Launch) {bare answer : Answer (Service.Phase RunResult β)}
    (waits : ∀ b s, (wait b s).launch? = some (launchOf b, s))
    (valid : ¬ Refused (progressOf wait bare))
    (resettled : ∀ phase, bare.1 = .ok phase →
      ∃ phase', answer.1 = .ok phase' ∧ (phase'.IsWaiting ↔ phase.IsWaiting))
    (environment : ∀ b after, answer = (.ok (.waiting b), after) →
      (launchOf b).environment = childVariables s.host (s.withRoot settings)) :
    Sequel s settings (progressOf wait bare) (progressOf wait answer) := by
  obtain ⟨f | phase, before⟩ := bare
  · exact absurd (refused_fail _ _) valid
  obtain ⟨phase', is, same⟩ := resettled phase rfl
  obtain ⟨_, after⟩ := answer
  obtain rfl := is
  cases phase' with
  | answered r' =>
    cases phase with
    | waiting b => exact (same.mpr trivial).elim
    | answered r =>
      refine ⟨not_refused_endRun _ _, rfl, fun launch final h => ?_⟩
      have not_launched : (progressOf wait (.ok (.answered r'), after)).launch? = none := rfl
      rw [not_launched] at h
      cases h
  | waiting b' =>
    cases phase with
    | answered r => exact (same.mp trivial).elim
    | waiting b =>
      refine ⟨?_, ?_, fun launch final h => ?_⟩
      · rintro ⟨e, ended, -⟩
        have none_launched := congrArg Progress.launch? ended
        rw [show (progressOf wait (.ok (.waiting b'), after)).launch? = _ from waits b' after]
          at none_launched
        cases none_launched
      · show (wait b' after).launch?.isSome = (wait b before).launch?.isSome
        rw [waits, waits]
        rfl
      · have launched := (waits b' after).symm.trans h
        obtain ⟨rfl, -⟩ := Prod.mk.inj (Option.some.inj launched)
        exact environment b' after rfl

/-- What comes of a request once its settings are known. -/
theorem sequel_run {s : Service} (job : RunJob)
    (valid : ¬ Refused (progressOf .running (s.prepareRun { job with settings := [] } none))) :
    Sequel s job.settings (progressOf .running (s.prepareRun { job with settings := [] } none))
      (progressOf .running (s.prepareRun job none)) :=
  sequel_of_phases Service.PendingRun.launch (fun _ _ => rfl) valid
    (fun _ bare => Service.prepareRun_resettled { job with settings := [] } bare
      fun _ located => Service.locate_of_bare located job.settings)
    fun _ _ prepared => (Service.prepareRun_launch prepared).2.2.1

theorem sequel_command {s : Service} (job : CommandJob)
    (valid : ¬ Refused (progressOf .commanding (s.prepareCommand { job with settings := [] }))) :
    Sequel s job.settings (progressOf .commanding (s.prepareCommand { job with settings := [] }))
      (progressOf .commanding (s.prepareCommand job)) :=
  sequel_of_phases id (fun _ _ => rfl) valid
    (fun _ bare => Service.prepareCommand_resettled { job with settings := [] } bare
      fun _ located => Service.locate_of_bare located job.settings)
    fun _ _ prepared => by
      obtain ⟨_, _, _, -, -, rfl⟩ := Service.prepareCommand_launch prepared
      rfl

theorem Sequel.of_setup {s active : Service} {bare progress : Progress}
    (h : Sequel active settings bare progress) (setup : Service.SameSetup s active) :
    Sequel s settings bare progress where
  accepted := h.accepted
  launches := h.launches
  environment := fun launch after launched => by
    rw [h.environment launch after launched, setup.childVariables, setup.withRoot]

namespace Errand

variable {errand : Errand} {s : Service} {input : String}

/-- A request that is in order but for an argument at fault is rejected. -/
theorem rejected (valid : ¬ Refused (errand.start s [] input)) {faulty : String}
    (listed : faulty ∈ arguments) (fault : Faulty faulty) :
    Rejected s.host (errand.start s arguments input) := by
  cases errand with
  | run file codeFile root =>
    unfold start at valid ⊢
    dsimp only at valid ⊢
    rw [startRun_eq] at valid ⊢
    have same := (activate_snd s root).2
    generalize activate s root = activated at valid same ⊢
    obtain ⟨f | _, active⟩ := activated
    · exact absurd (refused_fail _ _) valid
    · dsimp only at valid ⊢
      -- The code is read before the settings are: if it cannot be, the bare request is refused too.
      generalize codeFrom active.host file codeFile input = code at valid ⊢
      cases code with
      | error f => exact absurd (refused_fail _ _) valid
      | ok code =>
        obtain ⟨f, is, shown⟩ := (makes_runJob code file).refuses listed fault
        dsimp only
        rw [is]
        exact rejected_fail shown same
  | command line root =>
    unfold start at valid ⊢
    dsimp only at valid ⊢
    rw [startCommand_eq] at valid ⊢
    have same := (activate_snd s root).2
    generalize activate s root = activated at valid same ⊢
    obtain ⟨f | _, active⟩ := activated
    · exact absurd (refused_fail _ _) valid
    · obtain ⟨f, is, shown⟩ := (makes_commandJob line).refuses listed fault
      dsimp only
      rw [is]
      exact rejected_fail shown same

/-- A request that is in order, with settings that are accepted, comes as far as without. -/
theorem goesOn (valid : ¬ Refused (errand.start s [] input))
    (is : settingsOf [] arguments = .ok result) (accepted : checkSettings result = .ok result) :
    Sequel s result (errand.start s [] input) (errand.start s arguments input) := by
  cases errand with
  | run file codeFile root =>
    unfold start at valid ⊢
    dsimp only at valid ⊢
    rw [startRun_eq] at valid
    rw [startRun_eq, startRun_eq]
    have setup := (activate_snd s root).1
    generalize activate s root = activated at valid setup ⊢
    obtain ⟨f | _, active⟩ := activated
    · exact absurd (refused_fail _ _) valid
    · dsimp only at valid ⊢
      generalize codeFrom active.host file codeFile input = code at valid ⊢
      cases code with
      | error f => exact absurd (refused_fail _ _) valid
      | ok code =>
        have made : (settingsOf [] arguments).bind (RunJob.make code file) =
            .ok ⟨code, file, result⟩ := by
          rw [is]
          exact (makes_runJob code file).ok result accepted
        have bare : (settingsOf [] []).bind (RunJob.make code file) = .ok ⟨code, file, []⟩ :=
          (makes_runJob code file).ok [] (checkSettings_ok fun _ h => nomatch h)
        dsimp only at valid ⊢
        rw [bare] at valid
        rw [made, bare]
        exact (sequel_run ⟨code, file, result⟩ valid).of_setup setup
  | command line root =>
    unfold start at valid ⊢
    dsimp only at valid ⊢
    rw [startCommand_eq] at valid
    rw [startCommand_eq, startCommand_eq]
    have setup := (activate_snd s root).1
    have made : (settingsOf [] arguments).bind (CommandJob.make line) = .ok ⟨line, result⟩ := by
      rw [is]
      exact (makes_commandJob line).ok result accepted
    have bare : (settingsOf [] []).bind (CommandJob.make line) = .ok ⟨line, []⟩ :=
      (makes_commandJob line).ok [] (checkSettings_ok fun _ h => nomatch h)
    rw [bare] at valid
    rw [made, bare]
    generalize activate s root = activated at valid setup ⊢
    obtain ⟨f | _, active⟩ := activated
    · exact absurd (refused_fail _ _) valid
    · exact (sequel_command ⟨line, result⟩ valid).of_setup setup

end Errand

/-! ## Confinement -/

/-- What a child is told of a variable.  One of the toolchain has the value of the last argument for
    it, if that is not empty; the root has the configured one otherwise; and all else is as the
    process has it. -/
def told (config : Config) (h : Host) (arguments : List String) (name : String) : Option String :=
  if name ∈ toolchainVariables then
    let configured := if name = Toolchain.rootVariable then config.toolchain.root else none
    ((lastValue arguments name).filter fun value => !value.isEmpty).or
      ((configured.filter fun root => !root.isEmpty).or (h.value? name))
  else h.value? name

/-- The variables of a launch are what they are told to be, each of them once; and none of those of
    the process is missing. -/
structure Confined (config : Config) (h : Host) (arguments : List String) (launch : Launch) :
    Prop where
  told : ∀ name, launch.environment.lookup name = told config h arguments name
  once : (h.environment.map (·.1)).Nodup → (launch.environment.map (·.1)).Nodup
  keeps : ∀ name value, h.value? name = some value →
    ∃ value', launch.environment.lookup name = some value'

theorem confined_of_environment {s : Service} {launch : Launch}
    (values : ∀ name ∈ toolchainVariables, result.lookup name = lastValue arguments name)
    (known : ∀ name ∈ result.map (·.1), name ∈ toolchainVariables)
    (distinct : (result.map (·.1)).Nodup)
    (environment : launch.environment = childVariables s.host (s.withRoot result)) :
    Confined s.config s.host arguments launch := by
  have lookup : ∀ name, launch.environment.lookup name =
      (given? (s.withRoot result) name).or (s.host.value? name) := fun name => by
    rw [environment, lookup_childVariables (Service.nodup_withRoot distinct)]
  refine ⟨fun name => ?_, fun once => ?_, fun name value has => ?_⟩
  · rw [lookup, Service.given_withRoot]
    unfold CommandLine.told
    by_cases here : name ∈ toolchainVariables
    · have given : given? result name = (lastValue arguments name).filter fun v => !v.isEmpty := by
        unfold given?
        rw [values name here]
      rw [if_pos here]
      by_cases root : Toolchain.rootVariable = name
      · rw [if_pos root, if_pos root.symm, ← given]
        unfold Service.rootInUse Service.configuredRoot
        rw [root, Option.or_assoc]
      · rw [if_neg root, if_neg (Ne.symm root), given]
        rfl
    · have root : Toolchain.rootVariable ≠ name := by
        rintro rfl
        exact here (by decide)
      rw [if_neg here, if_neg root, given_eq_none fun h => here (known name h), Option.none_or]
  · rw [environment]
    exact nodup_childVariables once
  · rw [lookup, has]
    cases given? (s.withRoot result) name with
    | none => exact ⟨value, rfl⟩
    | some value' => exact ⟨value', rfl⟩

/-- What is told of the variables does not depend on the files. -/
theorem Confined.of_files {config : Config} {h : Host} {files : FileSystem} {launch : Launch}
    (confined : Confined config { h with files } arguments launch) :
    Confined config h arguments launch :=
  ⟨confined.told, confined.once, confined.keeps⟩

/-- **Confinement**: a request that would be in order without settings is rejected just if one of
    its arguments is at fault, and then no file has changed but that of the reports, which has been
    opened before.  Otherwise it comes as far as it would without settings; and what the child is
    told of the variables of the toolchain is what the arguments, the configuration and the process
    say, in this order, and of all others what the process says. -/
theorem settings_confined {errand : Errand} {given : List String} {directory place input : String}
    {h host : Host} {config : Config}
    (parses : Invocation.parse arguments = .ok ⟨directory, errand.request given⟩)
    (configures : configure h directory = .ok (place, config))
    (opens : openLog h config = .ok host)
    (valid : ¬ Refused (carryOut host config place (errand.request []) input)) :
    let bare := carryOut host config place (errand.request []) input
    let progress := (start arguments input h).2
    (Rejected host progress ↔ ∃ argument ∈ given, Faulty argument) ∧
      ((∀ argument ∈ given, ¬ Faulty argument) →
        progress.launch?.isSome = bare.launch?.isSome ∧
        ∀ launch after, progress.launch? = some (launch, after) →
          Confined config h given launch) := by
  obtain ⟨same, -⟩ := openLog_ok opens
  dsimp only
  -- With and without settings, the request starts from the same host: the log is open in both.
  rw [start_configured parses configures opens]
  rw [errand.carryOut_eq] at valid ⊢
  rw [errand.carryOut_eq]
  rcases created : Service.create host config (some place) .posix with f | s
  · rw [created] at valid
    exact absurd ⟨_, rfl, nofun, nofun⟩ valid
  · rw [created] at valid
    dsimp only at valid ⊢
    obtain ⟨rfl, rfl⟩ := create_ok created
    by_cases faulty : ∃ argument ∈ given, Faulty argument
    · obtain ⟨argument, listed, fault⟩ := faulty
      exact ⟨iff_of_true (errand.rejected valid listed fault) ⟨argument, listed, fault⟩,
        fun fine => absurd fault (fine argument listed)⟩
    · have fine : ∀ argument ∈ given, ¬ Faulty argument := fun argument listed fault =>
        faulty ⟨argument, listed, fault⟩
      obtain ⟨result, is, accepted, distinct, values, known⟩ := settings_accepted fine
      have sequel := errand.goesOn valid is accepted
      refine ⟨iff_of_false (fun rejected => sequel.accepted (refused_of_rejected rejected)) faulty,
        fun _ => ⟨sequel.launches, fun launch after launched => ?_⟩⟩
      have confined := confined_of_environment values known distinct
        (sequel.environment launch after launched)
      rw [same] at confined
      exact confined.of_files

/-- The same variable twice, with a value that has a sign in it. -/
def twice : List String :=
  ["--config-dir", "/w", "cmd", "go version", "--env", "GOROOT=/a", "--env", "GOROOT=/b=c",
    "--root", "/w"]

/-- The command line of these arguments. -/
def version : Errand := .command "go version" (some "/w")

/-- Without settings the command line is launched. -/
theorem version_launches {s : Service} {inner : List (String × Entry)}
    (orderly : s.host.files.Orderly)
    (there : Entry.at? ["w"] s.host.files.entries = some (.directory inner)) :
    ∃ launch after, (version.start s [] "").launch? = some (launch, after) := by
  have activated := activate_w there
  generalize is : { s with workspace := some "/w" } = active at activated
  have place : active.commandDirectory = .ok "/w" := by
    rw [← is]
    rfl
  have located : ∃ toolchain, active.locate [] = .ok toolchain :=
    Service.locate_ok (by rw [← is]; exact orderly) []
  obtain ⟨launch, after, launched⟩ :=
    (Service.prepareCommand_launches_iff ⟨"go version", []⟩
      (show Text.words "go version" = Toolchain.program :: ["version"] by decide)).mpr
      ⟨located, "/w", place⟩
  have made : (settingsOf [] []).bind (CommandJob.make "go version") = .ok ⟨"go version", []⟩ :=
    (makes_commandJob "go version").ok [] (checkSettings_ok fun _ h => nomatch h)
  refine ⟨launch, after, ?_⟩
  show (startCommand s "go version" [] (some "/w")).launch? = _
  rw [startCommand_eq, activated]
  dsimp only
  rw [made]
  dsimp only
  rw [launched]
  rfl

theorem not_refused_of_launch {launch : Launch} {after : Service} {progress : Progress}
    (launches : progress.launch? = some (launch, after)) : ¬ Refused progress := by
  rintro ⟨e, rfl, -⟩
  cases launches

theorem settings_confined_twice :
    Invocation.parse twice = .ok ⟨"/w", version.request ["GOROOT=/a", "GOROOT=/b=c"]⟩ ∧
      configure (Service.serving Service.oneFile).host "/w" = .ok ("/w", {}) ∧
      ∃ launch after, (start twice "" (Service.serving Service.oneFile).host).2.launch? =
          some (launch, after) ∧
        launch.environment.lookup "GOROOT" = some "/b=c" := by
  have parses : Invocation.parse twice =
    .ok ⟨"/w", version.request ["GOROOT=/a", "GOROOT=/b=c"]⟩ := rfl
  have configures := configure_serving Service.orderly_oneFile ⟨_, rfl⟩ rfl
  obtain ⟨launch, after, launches⟩ := @version_launches (started Service.oneFile) _
    Service.orderly_oneFile rfl
  have bare : carryOut (Service.serving Service.oneFile).host {} "/w" (version.request []) "" =
      version.start (started Service.oneFile) [] "" := by
    rw [version.carryOut_eq, create_serving]
  have valid : ¬ Refused (carryOut (Service.serving Service.oneFile).host {} "/w"
      (version.request []) "") := by
    rw [bare]
    exact not_refused_of_launch launches
  have fine : ∀ argument ∈ ["GOROOT=/a", "GOROOT=/b=c"], ¬ Faulty argument := by
    intro argument listed
    have assigns : ∃ value, Assigns argument "GOROOT" value := by
      rcases List.mem_pair.mp listed with rfl | rfl
      · exact ⟨"/a", rfl, by decide, by decide⟩
      · exact ⟨"/b=c", rfl, by decide, by decide⟩
    obtain ⟨value, assigns⟩ := assigns
    exact assigns.not_faulty (by decide)
  obtain ⟨-, comes⟩ := settings_confined parses configures (openLog_none _) valid
  obtain ⟨as_far, confined⟩ := comes fine
  rw [bare, launches] at as_far
  obtain ⟨⟨launch', after'⟩, launched⟩ := Option.isSome_iff_exists.mp as_far
  refine ⟨parses, configures, launch', after', launched, ?_⟩
  rw [(confined launch' after' launched).told]
  decide

/-! ## Reports -/

/-- A configuration with a file for the reports. -/
def logText : List Char := "log_file='/x'".toList

/-- What it says. -/
def reporting : Config := { logFile := some "/x" }

/-- The host of that configuration. -/
def loggingHost : Host := Config.configured (Utf8.encode logText)

theorem configure_reporting : configure loggingHost "/w" = .ok ("/w", reporting) := by
  unfold loggingHost
  rw [configure_configured, Config.ofBytes_encode]
  unfold Config.ofText
  rw [show Toml.read logText = .ok [("log_file", .text "/x")] from
    Config.read_of_isEntry (by decide +kernel)]
  rfl

/-- The files once that for the reports has been made. -/
def logged : FileSystem := loggingHost.files.put ["x"] (.file [] false)

theorem find_log : loggingHost.files.find "/x" = .error .missing := by
  have leads : LeadsTo "/x" ([] ++ ["x"]) := ⟨rfl, rfl, by decide⟩
  unfold FileSystem.find
  rw [leads.reach_vacant (leads.passable (by decide) (by decide)) (by decide) Entry.dirAt_nil
    (rfl : Entry.at? ["x"] loggingHost.files.entries = none)]

theorem write_log : loggingHost.files.write "/x" [] = .ok logged := by
  have leads : LeadsTo "/x" ([] ++ ["x"]) := ⟨rfl, rfl, by decide⟩
  exact leads.write_vacant (leads.passable (by decide) (by decide)) (by decide) Entry.dirAt_nil
    (rfl : Entry.at? ["x"] loggingHost.files.entries = none) []

theorem openLog_reporting :
    openLog loggingHost reporting = .ok { loggingHost with files := logged } := by
  have irregular : loggingHost.files.isRegular "/x" = false := by
    unfold isRegular existsAt
    rw [find_log]
    rfl
  have touches : loggingHost.files.touch "/x" = .ok logged := by
    unfold touch
    rw [irregular]
    exact write_log
  have absolute : loggingHost.absolute "/x" = .ok "/x" := rfl
  unfold openLog
  dsimp only [reporting, Option.filter, bind, Except.bind]
  rw [if_pos (by decide)]
  dsimp only
  rw [absolute]
  dsimp only
  rw [touches]

/-- An argument without a sign. -/
def unsigned : List String :=
  ["--config-dir", "/w", "cmd", "go version", "--env", "X", "--root", "/w"]

/-- **Reports**: a request that is in order but for an argument at fault is rejected, and the file
    for the reports, which was not there before, has been made. -/
theorem rejection_leaves_log :
    Invocation.parse unsigned = .ok ⟨"/w", version.request ["X"]⟩ ∧ Faulty "X" ∧
      configure loggingHost "/w" = .ok ("/w", reporting) ∧
      openLog loggingHost reporting = .ok { loggingHost with files := logged } ∧
      ¬ Refused (carryOut { loggingHost with files := logged } reporting "/w"
        (version.request []) "") ∧
      ∃ e, (start unsigned "" loggingHost).2 = .ended e ∧ e.status = .ok 2 ∧
        loggingHost.files.read "/x" = .error .missing ∧ e.host.files.read "/x" = .ok [] := by
  have parses : Invocation.parse unsigned = .ok ⟨"/w", version.request ["X"]⟩ := rfl
  have fault : Faulty "X" := .malformed (Or.inl (by decide))
  have stored := stored_of_write (orderly_configured (Utf8.encode logText)) write_log
  obtain ⟨s, created, files⟩ : ∃ s, Service.create { loggingHost with files := logged } reporting
      (some "/w") .posix = .ok s ∧ s.host.files = logged := ⟨_, rfl, rfl⟩
  have carried : ∀ given, carryOut { loggingHost with files := logged } reporting "/w"
      (version.request given) "" = version.start s given "" := fun given => by
    rw [version.carryOut_eq, created]
  have there : Entry.at? ["w"] s.host.files.entries =
      some (.directory [("editor.toml", .file (Utf8.encode logText) false)]) := by
    rw [files]
    rfl
  obtain ⟨launch, after, launches⟩ := version_launches (files ▸ stored.orderly) there
  have valid := not_refused_of_launch launches
  obtain ⟨e, ended, status, same⟩ :=
    version.rejected valid (List.mem_singleton_self "X") fault
  refine ⟨parses, fault, configure_reporting, openLog_reporting, ?_, e, ?_, status, ?_, ?_⟩
  · rw [carried]
    exact valid
  · rw [start_configured parses configure_reporting openLog_reporting, carried]
    exact ended
  · unfold FileSystem.read
    rw [find_log]
  · rw [same, files]
    exact stored.read

end GoWorkbench.CommandLine
