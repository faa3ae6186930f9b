/-
  The variables of a child, and the toolchain that goes with them.

  A child gets the variables of the process, with the settings of its request laid over them and
  the configured root of the toolchain between the two.  The toolchain is located from the same
  root, whichever way it is asked for.

  1. **Setting** — setting a variable is seen under its name and nowhere else, and no name comes to
     be there twice.
  2. **Laying over** — a setting that is not empty wins over the variable of the process
     (`lookup_childVariables`).
  3. **The root in use** — that of the settings, or the configured one, empty ones left out.  It
     decides where the toolchain is (`locate_eq`), and is what `withRoot` sets (`given_withRoot`).
  4. **One toolchain** — code, commands and questions to the toolchain launch the one that is
     located, and their children are told its root (`launches_share_toolchain`).
-/
import GoWorkbench.Proofs.Service.Phases

namespace GoWorkbench

/-! ## Setting -/

section Setting

variable {name value : String} {settings environment : Settings} {h : Host}

theorem lookup_setting (name other value : String) (rest : Settings) :
    ((other, value) :: rest).lookup name =
      if other = name then some value else rest.lookup name := by
  rw [List.lookup_cons]
  by_cases is : other = name
  · rw [if_pos is, is, beq_self_eq_true]
  · rw [if_neg is, beq_false_of_ne (Ne.symm is)]

/-- What is found is among the names. -/
theorem mem_names_of_lookup (h : settings.lookup name = some value) :
    name ∈ settings.map (·.1) := by
  obtain ⟨setting, listed, is⟩ :=
    List.lookup_isSome_iff.mp (Option.isSome_iff_exists.mpr ⟨value, h⟩)
  exact List.mem_map.mpr ⟨setting, listed, (eq_of_beq is).symm⟩

/-- **Setting**: what is set is found under its name, and all else as before. -/
theorem lookup_setVariable (name value : String) (environment : Settings) (other : String) :
    (Host.setVariable name value environment).lookup other =
      if name = other then some value else environment.lookup other := by
  induction environment with
  | nil => rw [Host.setVariable, lookup_setting]
  | cons head rest ih =>
    obtain ⟨n, v⟩ := head
    rw [Host.setVariable]
    by_cases is : n = name
    · rw [if_pos is, lookup_setting, lookup_setting, is]
      split <;> rfl
    · rw [if_neg is, lookup_setting, lookup_setting, ih]
      by_cases here : n = other
      · rw [if_pos here, if_neg fun h => is (here.trans h.symm), if_pos here]
      · rw [if_neg here, if_neg here]

/-- Only the variable that is set comes to be among the names. -/
theorem mem_names_setVariable {other : String}
    (h : other ∈ (Host.setVariable name value environment).map (·.1)) :
    other = name ∨ other ∈ environment.map (·.1) := by
  induction environment with
  | nil => exact Or.inl (List.mem_singleton.mp h)
  | cons head rest ih =>
    rw [Host.setVariable] at h
    split at h
    · rename_i is
      rcases List.mem_cons.mp h with here | there
      · exact Or.inl here
      · exact Or.inr (List.mem_cons_of_mem _ there)
    · rcases List.mem_cons.mp h with here | there
      · exact Or.inr (List.mem_cons.mpr (Or.inl here))
      · exact (ih there).imp_right (List.mem_cons_of_mem _)

/-- No name comes to be there twice. -/
theorem nodup_setVariable (distinct : (environment.map (·.1)).Nodup) :
    ((Host.setVariable name value environment).map (·.1)).Nodup := by
  induction environment with
  | nil => exact List.nodup_singleton name
  | cons head rest ih =>
    obtain ⟨new, distinct⟩ := List.nodup_cons.mp distinct
    rw [Host.setVariable]
    split
    · rename_i is
      exact List.nodup_cons.mpr ⟨is ▸ new, distinct⟩
    · rename_i other
      refine List.nodup_cons.mpr ⟨fun listed => ?_, ih distinct⟩
      exact (mem_names_setVariable listed).elim other new

/-! ## Laying over -/

/-- The value that settings give a variable; an empty one gives none. -/
def given? (settings : Settings) (name : String) : Option String :=
  (settings.lookup name).filter fun value => !value.isEmpty

theorem given_setting (name other value : String) (rest : Settings) :
    given? ((other, value) :: rest) name =
      if other = name then (some value).filter fun v => !v.isEmpty else given? rest name := by
  unfold given?
  rw [lookup_setting]
  split <;> rfl

theorem given_eq_none (absent : name ∉ settings.map (·.1)) : given? settings name = none := by
  induction settings with
  | nil => rfl
  | cons head rest ih =>
    obtain ⟨other, absent⟩ := not_or.mp (mt List.mem_cons.mpr absent)
    rw [given_setting, if_neg (Ne.symm other), ih absent]

theorem given_setVariable (name value : String) (settings : Settings) (other : String) :
    given? (Host.setVariable name value settings) other =
      if name = other then (some value).filter fun v => !v.isEmpty else given? settings other := by
  unfold given?
  rw [lookup_setVariable]
  split <;> rfl

/-- The settings, one by one, laid over the variables. -/
def layOver (environment settings : Settings) : Settings :=
  settings.foldl (fun environment (name, value) =>
    if value.isEmpty then environment else Host.setVariable name value environment) environment

theorem childVariables_eq (h : Host) (settings : Settings) :
    childVariables h settings = layOver h.environment settings := rfl

theorem layOver_cons (environment : Settings) (name value : String) (rest : Settings) :
    layOver environment ((name, value) :: rest) =
      layOver (if value.isEmpty then environment else Host.setVariable name value environment)
        rest := rfl

theorem lookup_layOver (distinct : (settings.map (·.1)).Nodup) (environment : Settings)
    (name : String) : (layOver environment settings).lookup name =
      (given? settings name).or (environment.lookup name) := by
  induction settings generalizing environment with
  | nil => rfl
  | cons head rest ih =>
    obtain ⟨other, value⟩ := head
    obtain ⟨new, distinct⟩ := List.nodup_cons.mp distinct
    rw [layOver_cons, ih distinct, given_setting]
    by_cases is : other = name
    · -- nothing that comes later is set under this name
      rw [if_pos is, given_eq_none (is ▸ new), Option.none_or]
      by_cases empty : value.isEmpty = true
      · rw [if_pos empty, Option.filter_some, if_neg (by rw [empty]; exact Bool.false_ne_true),
          Option.none_or]
      · rw [if_neg empty, lookup_setVariable, if_pos is, Option.filter_some,
          if_pos (by rw [Bool.eq_false_iff.mpr empty]; rfl), Option.some_or]
    · rw [if_neg is]
      split
      · rfl
      · rw [lookup_setVariable, if_neg is]

/-- **Laying over**: a setting that is not empty wins over the variable of the process. -/
theorem lookup_childVariables (distinct : (settings.map (·.1)).Nodup) (h : Host) (name : String) :
    (childVariables h settings).lookup name = (given? settings name).or (h.value? name) :=
  lookup_layOver distinct h.environment name

/-- The variables of a child have distinct names, if those of the process have. -/
theorem nodup_childVariables (distinct : (h.environment.map (·.1)).Nodup) :
    ((childVariables h settings).map (·.1)).Nodup := by
  rw [childVariables_eq]
  generalize h.environment = environment at distinct
  induction settings generalizing environment with
  | nil => exact distinct
  | cons head rest ih =>
    rw [layOver_cons]
    refine ih _ ?_
    split
    · exact distinct
    · exact nodup_setVariable distinct

end Setting

namespace Service

variable {s after : Service} {settings : Settings} {launch : Launch}

/-! ## The root in use -/

/-- The root that has been configured. -/
def configuredRoot (s : Service) : Option String :=
  s.config.toolchain.root.filter fun root => !root.isEmpty

/-- The root that the settings give, or else the configured one. -/
def rootInUse (s : Service) (settings : Settings) : Option String :=
  (given? settings Toolchain.rootVariable).or s.configuredRoot

theorem isEmpty_getD_lookup (settings : Settings) (name : String) :
    ((settings.lookup name).getD "").isEmpty = (given? settings name).isNone := by
  unfold given?
  cases settings.lookup name with
  | none => rfl
  | some value =>
    rw [Option.getD_some, Option.filter_some]
    cases value.isEmpty <;> rfl

/-- The configured root is set where the settings give none. -/
theorem withRoot_eq (s : Service) (settings : Settings) : s.withRoot settings =
    match given? settings Toolchain.rootVariable, s.configuredRoot with
    | none, some root => Host.setVariable Toolchain.rootVariable root settings
    | _, _ => settings := by
  unfold withRoot configuredRoot
  dsimp only
  rw [isEmpty_getD_lookup]
  cases s.config.toolchain.root with
  | none => cases given? settings Toolchain.rootVariable <;> rfl
  | some root =>
    dsimp only
    rw [Option.filter_some]
    cases given? settings Toolchain.rootVariable <;> cases root.isEmpty <;> rfl

/-- A root that has been configured is not empty. -/
theorem isEmpty_of_configuredRoot {root : String} (h : s.configuredRoot = some root) :
    root.isEmpty = false := by
  obtain ⟨-, some_text⟩ := Option.filter_eq_some_iff.mp h
  simpa using some_text

/-- **The root in use** is what the settings of a child give; nothing else is different in them. -/
theorem given_withRoot (s : Service) (settings : Settings) (name : String) :
    given? (s.withRoot settings) name =
      if Toolchain.rootVariable = name then s.rootInUse settings else given? settings name := by
  rw [withRoot_eq]
  unfold rootInUse
  split
  · rename_i root none_given configured
    rw [given_setVariable, none_given, configured, Option.none_or, Option.filter_some,
      isEmpty_of_configuredRoot configured]
    rfl
  · rename_i settled
    split
    · rename_i is
      subst is
      cases given : given? settings Toolchain.rootVariable with
      | some root => rfl
      | none =>
        cases configured : s.configuredRoot with
        | none => rfl
        | some root => exact absurd configured (settled root given)
    · rfl

theorem nodup_withRoot (distinct : (settings.map (·.1)).Nodup) :
    ((s.withRoot settings).map (·.1)).Nodup := by
  rw [withRoot_eq]
  split
  · exact nodup_setVariable distinct
  · exact distinct

/-- The toolchain is that of the root in use; without one it is searched for. -/
theorem locate_eq (s : Service) (settings : Settings) : s.locate settings =
    match s.rootInUse settings with
    | some root => .ok (Toolchain.ofRoot root)
    | none => Toolchain.find s.host none s.platform := by
  have given := given_withRoot s settings Toolchain.rootVariable
  rw [if_pos rfl] at given
  rw [← given]
  unfold locate Toolchain.locate given?
  cases (s.withRoot settings).lookup Toolchain.rootVariable with
  | none => rfl
  | some root =>
    rw [Option.filter_some]
    dsimp only
    cases root.isEmpty <;> rfl

/-- Where a toolchain is located without settings, one is located with any. -/
theorem locate_of_bare {toolchain : String} (located : s.locate [] = .ok toolchain)
    (settings : Settings) : ∃ toolchain', s.locate settings = .ok toolchain' := by
  rw [locate_eq] at located ⊢
  cases used : s.rootInUse settings with
  | some root => exact ⟨_, rfl⟩
  | none =>
    have bare : s.rootInUse [] = none := (Option.or_eq_none_iff.mp used).2
    rw [bare] at located
    exact ⟨toolchain, located⟩

/-- What a child is told of the root: the one in use, or that of the process. -/
theorem lookup_rootVariable (distinct : (settings.map (·.1)).Nodup) :
    (childVariables s.host (s.withRoot settings)).lookup Toolchain.rootVariable =
      (s.rootInUse settings).or (s.host.value? Toolchain.rootVariable) := by
  rw [lookup_childVariables (nodup_withRoot distinct), given_withRoot, if_pos rfl]

/-! ## One toolchain -/

/-- The launch is that of the toolchain that is located with these settings, and tells its child
    where that is from. -/
structure Uses (s : Service) (settings : Settings) (launch : Launch) : Prop where
  located : s.locate settings = .ok launch.program
  /-- With a root in use, the toolchain is that of the root, which the child is told. -/
  root : ∀ root, s.rootInUse settings = some root →
    launch.program = Toolchain.ofRoot root ∧
      launch.environment.lookup Toolchain.rootVariable = some root
  /-- Without one, the child is told what the process has been told. -/
  none : s.rootInUse settings = none →
    launch.environment.lookup Toolchain.rootVariable = s.host.value? Toolchain.rootVariable

/-- A launch uses a toolchain that has been located from the same root, be it with other
    settings. -/
theorem Uses.of_located {other : Settings} {toolchain : String} {rest : List String}
    (distinct : (other.map (·.1)).Nodup) (same : s.rootInUse other = s.rootInUse settings)
    (located : s.locate other = .ok toolchain) (words : launch.words = toolchain :: rest)
    (environment : launch.environment = childVariables s.host (s.withRoot other)) :
    s.Uses settings launch := by
  have program : launch.program = toolchain := by
    unfold Launch.program
    rw [words]
    rfl
  refine ⟨?_, fun root used => ?_, fun unused => ?_⟩
  · rw [program, locate_eq, ← same, ← locate_eq]
    exact located
  · rw [locate_eq, same, used] at located
    refine ⟨program.trans (Except.ok.inj located).symm, ?_⟩
    rw [environment, lookup_rootVariable distinct, same, used, Option.some_or]
  · rw [environment, lookup_rootVariable distinct, same, unused, Option.none_or]

/-- Running code uses the toolchain that is located. -/
theorem uses_of_prepareRun (job : RunJob) {fault : Option Breach} {refusal : Option Trouble}
    {run : PendingRun} (distinct : (job.settings.map (·.1)).Nodup)
    (h : s.prepareRun job fault refusal = (.ok (.waiting run), after)) :
    s.Uses job.settings run.launch := by
  obtain ⟨located, words, environment, -⟩ := prepareRun_launch h
  exact .of_located distinct rfl located words environment

theorem commandWords_program {line toolchain : String} {rest : List String} (platform : Platform)
    (leads : Text.words line = Toolchain.program :: rest) :
    commandWords line toolchain platform = .ok (toolchain :: rest) := by
  unfold commandWords
  rw [leads]
  exact if_pos rfl

/-- And so does a command line that begins with the name of the program. -/
theorem uses_of_prepareCommand (job : CommandJob) {rest : List String}
    (distinct : (job.settings.map (·.1)).Nodup)
    (leads : Text.words job.command = Toolchain.program :: rest)
    (h : s.prepareCommand job = (.ok (.waiting launch), after)) : s.Uses job.settings launch := by
  obtain ⟨toolchain, words, directory, located, is_words, rfl⟩ := prepareCommand_launch h
  rw [commandWords_program s.platform leads] at is_words
  exact .of_located distinct rfl located (Except.ok.inj is_words).symm rfl

/-- Such a command line is launched if the toolchain is located and there is a directory for it. -/
theorem prepareCommand_launches_iff (job : CommandJob) {rest : List String}
    (leads : Text.words job.command = Toolchain.program :: rest) :
    (∃ launch after, s.prepareCommand job = (.ok (.waiting launch), after)) ↔
      (∃ toolchain, s.locate job.settings = .ok toolchain) ∧
        ∃ directory, s.commandDirectory = .ok directory := by
  have some_word : ¬ (Text.words job.command).isEmpty = true := by
    rw [leads]
    exact Bool.false_ne_true
  rw [prepareCommand_eq, if_neg some_word]
  cases s.locate job.settings with
  | error e => simp
  | ok toolchain =>
    dsimp only
    rw [commandWords_program s.platform leads]
    cases s.commandDirectory with
    | error e => simp
    | ok directory => simp

/-- The settings of a question to the toolchain have the same root in use. -/
theorem rootInUse_rootSettings (s : Service) (settings : Settings) :
    s.rootInUse (rootSettings (settings.lookup Toolchain.rootVariable)) = s.rootInUse settings := by
  unfold rootInUse
  congr 1
  unfold given? rootSettings
  cases settings.lookup Toolchain.rootVariable with
  | none => rfl
  | some root =>
    rw [Option.filter_some]
    split
    · rename_i some_text
      rw [Option.map_some, Option.toList_some, lookup_setting, if_pos rfl, Option.filter_some,
        if_pos some_text]
    · rfl

theorem nodup_rootSettings (root : Option String) : ((rootSettings root).map (·.1)).Nodup := by
  unfold rootSettings
  cases root.filter fun r => !r.isEmpty with
  | none => exact List.nodup_nil
  | some root => exact List.nodup_singleton _

/-- A question to the toolchain is launched if the toolchain is located, and uses it. -/
theorem prepareReport_cases (s : Service) (settings : Settings) :
    match s.locate settings with
    | .error e => s.prepareReport (settings.lookup Toolchain.rootVariable) = (.error e, s)
    | .ok _ => ∃ launch after,
        s.prepareReport (settings.lookup Toolchain.rootVariable) = (.ok launch, after) ∧
          s.Uses settings launch := by
  have same := rootInUse_rootSettings s settings
  have located : s.locate (rootSettings (settings.lookup Toolchain.rootVariable)) =
      s.locate settings := by rw [locate_eq, locate_eq, same]
  unfold prepareReport
  dsimp only
  rw [located]
  cases is : s.locate settings with
  | error e => rfl
  | ok toolchain =>
    exact ⟨_, _, rfl, .of_located (nodup_rootSettings _) same (located.trans is) rfl rfl⟩

/-- **One toolchain**: whatever is launched with some settings, each given once, is launched with
    the toolchain that these locate, and its child is told the root of it.  Commands and questions
    to the toolchain are launched whenever there is one, and a directory for the command. -/
theorem launches_share_toolchain (distinct : (settings.map (·.1)).Nodup) :
    (∀ code path fault run after,
      s.prepareRun ⟨code, path, settings⟩ fault = (.ok (.waiting run), after) →
        s.Uses settings run.launch) ∧
    (∀ line rest, Text.words line = Toolchain.program :: rest →
      (∀ launch after, s.prepareCommand ⟨line, settings⟩ = (.ok (.waiting launch), after) →
        s.Uses settings launch) ∧
      ((∃ launch after, s.prepareCommand ⟨line, settings⟩ = (.ok (.waiting launch), after)) ↔
        (∃ toolchain, s.locate settings = .ok toolchain) ∧
          ∃ directory, s.commandDirectory = .ok directory)) ∧
    match s.locate settings with
    | .error e => s.prepareReport (settings.lookup Toolchain.rootVariable) = (.error e, s)
    | .ok _ => ∃ launch after,
        s.prepareReport (settings.lookup Toolchain.rootVariable) = (.ok launch, after) ∧
          s.Uses settings launch :=
  ⟨fun _ _ _ _ _ h => uses_of_prepareRun ⟨_, _, settings⟩ distinct h,
    fun _ _ leads => ⟨fun _ _ h => uses_of_prepareCommand ⟨_, settings⟩ distinct leads h,
      prepareCommand_launches_iff ⟨_, settings⟩ leads⟩,
    prepareReport_cases s settings⟩

/-- A service with a configured root. -/
def configured : Service :=
  { serving oneFile with config := { toolchain := { root := some "/go" } } }

/-- The configured root is used, and told, where the settings give an empty one. -/
theorem launches_share_toolchain_configured :
    ([("GOROOT", ""), ("GOFLAGS", "-v")].map (·.1)).Nodup ∧ ∃ launch after,
      configured.prepareCommand ⟨"go version", [("GOROOT", ""), ("GOFLAGS", "-v")]⟩ =
        (.ok (.waiting launch), after) ∧
      launch.program = "/go/bin/go" ∧ launch.environment.lookup "GOROOT" = some "/go" := by
  have distinct : ([("GOROOT", ""), ("GOFLAGS", "-v")].map (·.1)).Nodup := by decide
  obtain ⟨-, commands, -⟩ := launches_share_toolchain (s := configured) distinct
  obtain ⟨use, launches⟩ := commands "go version" ["version"] (by decide)
  obtain ⟨launch, after, launched⟩ := launches.mpr ⟨⟨_, rfl⟩, ⟨_, rfl⟩⟩
  obtain ⟨program, told⟩ := (use launch after launched).root "/go" rfl
  exact ⟨distinct, launch, after, launched, program, told⟩

end Service

end GoWorkbench
