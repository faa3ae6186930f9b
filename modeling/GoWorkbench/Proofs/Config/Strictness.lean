/-
  Which documents are configurations, and what is said about the others.

  1. **Fields** — the values that the fields take (`checkSkipped_eq_ok`, `checkLogLevel_eq_ok`).
  2. **Configurations** — a document describes a configuration if it has known keys only and fit
     values; what it does not name has its default (`Describes`).  The check finds just that
     (`check_eq_ok`).
  3. **Order** — the order of the keys does not matter (`Describes.reordered`).
  4. **Complaints** — what is wrong with a document is what is wrong with each of its fields alone,
     followed by the keys that should not be there (`complaints_check`).
  5. **Strictness** — all of this about a file (`load_strict`).
-/
import GoWorkbench.Proofs.Config.Loading
import GoWorkbench.Proofs.Schema

namespace GoWorkbench.Config

open Checked Schema Text

open Toml (Defines Definite Entries)

variable {v : Value} {entries : Entries} {config : Config}

/-! ## Fields -/

/-- The name of a directory, without anything that leads to it. -/
def IsBare (name : String) : Prop := name ≠ "" ∧ '/' ∉ name.toList ∧ '\\' ∉ name.toList

theorem isBareName_iff {name : String} : isBareName name = true ↔ IsBare name := by
  simp [isBareName, IsBare, and_assoc]

/-- The value is a list of such names. -/
def ListsNames (v : Value) (names : List String) : Prop :=
  v = .list (names.map .text) ∧ ∀ name ∈ names, IsBare name

/-- The value is the name of a level, in any case. -/
def NamesLevel (v : Value) (level : LogLevel) : Prop := ∃ s, v = .text s ∧ upper s = level.name

/-- The value is a text, for a field that may have none. -/
def IsSomeText (v : Value) (s? : Option String) : Prop := ∃ s, v = .text s ∧ s? = some s

/-- The value stands for an integer of at least one. -/
def IsCount (v : Value) (most : Option Nat) : Prop :=
  ∃ n, integer v = .ok n ∧ 1 ≤ n ∧ most = some n.toNat

theorem checkSkipped_eq_ok {names : List String} :
    checkSkipped v = .ok names ↔ ListsNames v names := by
  unfold ListsNames checkSkipped
  rw [← texts_eq_ok]
  cases texts v with
  | error complaints => simp
  | ok given =>
    dsimp only
    split
    · rename_i none_refused
      have all_bare : ∀ name ∈ given, IsBare name := by
        simpa [isBareName_iff] using none_refused
      constructor
      · rintro ⟨⟩
        exact ⟨rfl, all_bare⟩
      · rintro ⟨⟨⟩, -⟩
        rfl
    · rename_i name refused
      constructor
      · nofun
      · -- the name that is complained about is not bare
        rintro ⟨⟨⟩, bare⟩
        have no_name := List.find?_some refused
        rw [isBareName_iff.mpr (bare name (List.mem_of_find?_eq_some refused))] at no_name
        cases no_name

theorem named_lookup {s : String} {level : LogLevel} :
    LogLevel.named.lookup s = some level ↔ s = level.name := by
  constructor
  · intro found
    obtain ⟨before, after, is, -⟩ := List.lookup_eq_some_iff.mp found
    have listed : (s, level) ∈ LogLevel.named := by
      rw [is]
      exact List.mem_append_right _ List.mem_cons_self
    obtain ⟨_, -, same⟩ := List.mem_map.mp listed
    cases same
    rfl
  · rintro rfl
    cases level <;> decide

theorem checkLogLevel_eq_ok {level : LogLevel} :
    checkLogLevel v = .ok level ↔ NamesLevel v level := by
  have chosen : ∀ s, choice LogLevel.named (upper s) = .ok level ↔ upper s = level.name := by
    intro s
    rw [← named_lookup]
    unfold choice
    cases LogLevel.named.lookup (upper s) <;> simp [complain]
  unfold checkLogLevel
  cases v with
  | text s =>
    dsimp only
    rw [chosen]
    constructor
    · intro is
      exact ⟨s, rfl, is⟩
    · rintro ⟨_, ⟨⟩, is⟩
      exact is
  | null | bool | integer | real | moment | list | table =>
    constructor
    · intro accepted
      cases accepted
    · rintro ⟨s, ⟨⟩, -⟩

/-! ## Configurations -/

/-- The keys that a document may have. -/
def topKeys : List String := ["state_file", "log_file", "log_level", "index", "toolchain"]

def indexKeys : List String := ["skip_dirs", "respect_gitignore"]

def toolchainKeys : List String := ["root", "max_concurrent_runs"]

/-- The table describes what a scan leaves out. -/
structure DescribesIndex (entries : Entries) (options : Scan.Options) : Prop where
  known : ∀ e ∈ entries, e.1 ∈ indexKeys
  skipped : Given entries "skip_dirs" ({} : Scan.Options).skipped ListsNames options.skipped
  respectIgnore : Given entries "respect_gitignore" false (fun v b => Schema.bool v = .ok b)
    options.respectIgnore

/-- The table describes how the toolchain is found and run. -/
structure DescribesToolchain (entries : Entries) (toolchain : ToolchainConfig) : Prop where
  known : ∀ e ∈ entries, e.1 ∈ toolchainKeys
  root : Given entries "root" none IsSomeText toolchain.root
  maxConcurrentRuns : Given entries "max_concurrent_runs" none IsCount toolchain.maxConcurrentRuns

/-- The value is a table that describes `a`. -/
def IsSection {α : Type} (describes : Entries → α → Prop) (v : Value) (a : α) : Prop :=
  ∃ inner, v = .table inner ∧ describes inner a

/-- The entries of a document describe the configuration. -/
structure Describes (entries : Entries) (config : Config) : Prop where
  known : ∀ e ∈ entries, e.1 ∈ topKeys
  stateFile : Given entries "state_file" ({} : Config).stateFile (fun v file => v = .text file)
    config.stateFile
  logFile : Given entries "log_file" none IsSomeText config.logFile
  logLevel : Given entries "log_level" .info NamesLevel config.logLevel
  index : Given entries "index" {} (IsSection DescribesIndex) config.index
  toolchain : Given entries "toolchain" {} (IsSection DescribesToolchain) config.toolchain

theorem not_null_of_get? (defines : Defines entries) {key : String}
    (found : Value.get? key entries = some v) : v ≠ .null := by
  rintro rfl
  cases defines.get? found

/-- A field that takes a text, in a document. -/
theorem optionalText_field (defines : Defines entries) {key : String} {s? : Option String} :
    field entries key none optionalText = .ok s? ↔
      Given entries key none IsSomeText s? :=
  field_eq_ok fun _ found _ => optionalText_eq_ok (not_null_of_get? defines found)

theorem checkIndex_eq_ok {options : Scan.Options} :
    checkIndex v = .ok options ↔ IsSection DescribesIndex v options := by
  refine model_eq_ok fun inner _ => ?_
  rw [map_eq_ok]
  constructor
  · rintro ⟨⟨⟨skipped, respectIgnore⟩, ⟨⟩⟩, checked, rfl⟩
    obtain ⟨fields, known⟩ := both_eq_ok.mp checked
    obtain ⟨first, second⟩ := both_eq_ok.mp fields
    exact {
      known := noOthers_eq_ok.mp known
      skipped := (field_eq_ok fun _ _ _ => checkSkipped_eq_ok).mp first
      respectIgnore := (field_eq_ok fun _ _ _ => Iff.rfl).mp second }
  · intro describes
    have first := (field_eq_ok fun _ _ _ => checkSkipped_eq_ok).mpr describes.skipped
    have second := (field_eq_ok fun _ _ _ => Iff.rfl).mpr describes.respectIgnore
    exact ⟨_, both_eq_ok.mpr ⟨both_eq_ok.mpr ⟨first, second⟩, noOthers_eq_ok.mpr describes.known⟩, rfl⟩

theorem exists_most {key : String} {most : Option Nat} :
    (∃ n?, Given entries key none (fun v n? => ∃ n, integer v = .ok n ∧ 1 ≤ n ∧ n? = some n) n? ∧
      n?.map Int.toNat = most) ↔
    Given entries key none IsCount most := by
  unfold Given
  cases Value.get? key entries with
  | none => simp [eq_comm]
  | some v =>
    constructor
    · rintro ⟨_, ⟨n, is, least, rfl⟩, rfl⟩
      exact ⟨n, is, least, rfl⟩
    · rintro ⟨n, is, least, rfl⟩
      exact ⟨some n, ⟨n, is, least, rfl⟩, rfl⟩

theorem checkToolchain_eq_ok {toolchain : ToolchainConfig} (definite : Definite v) :
    checkToolchain v = .ok toolchain ↔ IsSection DescribesToolchain v toolchain := by
  refine model_eq_ok ?_
  rintro inner rfl
  -- a null would do for both fields, but no document has one
  have most_eq_ok : ∀ {n? : Option Int},
      field inner "max_concurrent_runs" none (optionalAtLeast 1) = .ok n? ↔ Given inner
        "max_concurrent_runs" none (fun v n? => ∃ n, integer v = .ok n ∧ 1 ≤ n ∧ n? = some n) n? :=
    field_eq_ok fun _ found _ => optionalAtLeast_eq_ok (not_null_of_get? definite found)
  rw [map_eq_ok]
  constructor
  · rintro ⟨⟨⟨root, most⟩, ⟨⟩⟩, checked, rfl⟩
    obtain ⟨fields, known⟩ := both_eq_ok.mp checked
    obtain ⟨first, second⟩ := both_eq_ok.mp fields
    exact {
      known := noOthers_eq_ok.mp known
      root := (optionalText_field definite).mp first
      maxConcurrentRuns := exists_most.mp ⟨most, most_eq_ok.mp second, rfl⟩ }
  · intro describes
    obtain ⟨most, given, is⟩ := exists_most.mpr describes.maxConcurrentRuns
    have first := (optionalText_field definite).mpr describes.root
    have second := most_eq_ok.mpr given
    refine ⟨((toolchain.root, most), ()), ?_, by dsimp only; rw [is]⟩
    exact both_eq_ok.mpr ⟨both_eq_ok.mpr ⟨first, second⟩, noOthers_eq_ok.mpr describes.known⟩

/-- **Configurations**: the check of a document finds the configuration that it describes. -/
theorem check_eq_ok (defines : Defines entries) :
    check (.table entries) = .ok config ↔ Describes entries config := by
  have toolchain_eq_ok : ∀ {toolchain : ToolchainConfig},
      field entries "toolchain" {} checkToolchain = .ok toolchain ↔
        Given entries "toolchain" {} (IsSection DescribesToolchain) toolchain :=
    field_eq_ok fun _ found _ => checkToolchain_eq_ok (defines.get? found)
  unfold check model
  dsimp only
  rw [map_eq_ok]
  constructor
  · rintro ⟨⟨⟨⟨stateFile, logFile, logLevel⟩, index, toolchain⟩, ⟨⟩⟩, checked, rfl⟩
    obtain ⟨fields, known⟩ := both_eq_ok.mp checked
    obtain ⟨simple, nested⟩ := both_eq_ok.mp fields
    obtain ⟨state, logs⟩ := both_eq_ok.mp simple
    obtain ⟨log, level⟩ := both_eq_ok.mp logs
    obtain ⟨skips, finds⟩ := both_eq_ok.mp nested
    exact {
      known := noOthers_eq_ok.mp known
      stateFile := (field_eq_ok fun _ _ _ => text_eq_ok).mp state
      logFile := (optionalText_field defines).mp log
      logLevel := (field_eq_ok fun _ _ _ => checkLogLevel_eq_ok).mp level
      index := (field_eq_ok fun _ _ _ => checkIndex_eq_ok).mp skips
      toolchain := toolchain_eq_ok.mp finds }
  · intro describes
    have state := (field_eq_ok fun _ _ _ => text_eq_ok).mpr describes.stateFile
    have log := (optionalText_field defines).mpr describes.logFile
    have level := (field_eq_ok fun _ _ _ => checkLogLevel_eq_ok).mpr describes.logLevel
    have skips := (field_eq_ok fun _ _ _ => checkIndex_eq_ok).mpr describes.index
    have finds := toolchain_eq_ok.mpr describes.toolchain
    exact ⟨_, both_eq_ok.mpr ⟨both_eq_ok.mpr ⟨both_eq_ok.mpr ⟨state, both_eq_ok.mpr ⟨log, level⟩⟩,
      both_eq_ok.mpr ⟨skips, finds⟩⟩, noOthers_eq_ok.mpr describes.known⟩, rfl⟩

/-! ## Order -/

/-- The same value, but for the order of the keys in its tables. -/
inductive Reordered : Value → Value → Prop
  | same (v : Value) : Reordered v v
  | table {entries entries' : Entries} (keys : (entries.map (·.1)).Perm (entries'.map (·.1)))
      (each : ∀ key v v', Value.get? key entries = some v → Value.get? key entries' = some v' →
        Reordered v v') : Reordered (.table entries) (.table entries')

theorem get?_eq_none_iff {key : String} {entries : Entries} :
    Value.get? key entries = none ↔ key ∉ entries.map (·.1) := by
  unfold Value.get?
  rw [List.lookup_eq_none_iff]
  constructor
  · intro others listed
    obtain ⟨e, here, rfl⟩ := List.mem_map.mp listed
    exact bne_iff_ne.mp (others e here) rfl
  · intro free e listed
    exact bne_iff_ne.mpr fun same => free (same ▸ List.mem_map_of_mem listed)

section Reordering

variable {entries' : Entries} (keys : (entries.map (·.1)).Perm (entries'.map (·.1)))
  (each : ∀ key v v', Value.get? key entries = some v → Value.get? key entries' = some v' →
    Reordered v v')

include keys

theorem known_reordered {known : List String} (all : ∀ e ∈ entries, e.1 ∈ known) :
    ∀ e ∈ entries', e.1 ∈ known := by
  intro e listed
  have here : e.1 ∈ entries.map (·.1) := keys.mem_iff.mpr (List.mem_map_of_mem listed)
  obtain ⟨e', listed', same⟩ := List.mem_map.mp here
  exact same ▸ all e' listed'

include each

/-- A field holds what it held, if what its value stands for does not depend on the order of keys. -/
theorem given_reordered {α : Type} {key : String} {absent a : α} {stands : Value → α → Prop}
    (given : Given entries key absent stands a)
    (stays : ∀ v v', Reordered v v' → stands v a → stands v' a) :
    Given entries' key absent stands a := by
  unfold Given at given ⊢
  -- both have the key, or neither has
  cases found : Value.get? key entries with
  | none =>
    have gone : Value.get? key entries' = none :=
      get?_eq_none_iff.mpr fun listed => get?_eq_none_iff.mp found (keys.mem_iff.mpr listed)
    rw [found] at given
    rw [gone]
    exact given
  | some v =>
    rw [found] at given
    cases found' : Value.get? key entries' with
    | none =>
      have gone := get?_eq_none_iff.mpr fun listed =>
        get?_eq_none_iff.mp found' (keys.mem_iff.mp listed)
      rw [found] at gone
      cases gone
    | some v' => exact stays v v' (each key v v' found found') given

end Reordering

/-- What only values without keys stand for stays when keys are reordered. -/
theorem stays_of_plain {α : Type} {a : α} {stands : Value → α → Prop}
    (plain : ∀ entries, ¬ stands (.table entries) a) (v v' : Value) (reordered : Reordered v v')
    (is : stands v a) : stands v' a := by
  cases reordered with
  | same v => exact is
  | table keys each => exact absurd is (plain _)

theorem not_listsNames {names : List String} (entries : Entries) :
    ¬ ListsNames (.table entries) names := nofun

theorem not_isSomeText {s? : Option String} (entries : Entries) :
    ¬ IsSomeText (.table entries) s? := by
  rintro ⟨_, ⟨⟩, _⟩

theorem not_namesLevel {level : LogLevel} (entries : Entries) :
    ¬ NamesLevel (.table entries) level := by
  rintro ⟨_, ⟨⟩, _⟩

theorem not_isCount {most : Option Nat} (entries : Entries) : ¬ IsCount (.table entries) most := by
  rintro ⟨_, ⟨⟩, _⟩

theorem DescribesIndex.reordered {options : Scan.Options} {entries' : Entries}
    (describes : DescribesIndex entries options)
    (reordered : Reordered (.table entries) (.table entries')) : DescribesIndex entries' options := by
  cases reordered with
  | same => exact describes
  | table keys each => exact {
      known := known_reordered keys describes.known
      skipped := given_reordered keys each describes.skipped (stays_of_plain not_listsNames)
      respectIgnore := given_reordered keys each describes.respectIgnore (stays_of_plain nofun) }

theorem DescribesToolchain.reordered {toolchain : ToolchainConfig} {entries' : Entries}
    (describes : DescribesToolchain entries toolchain)
    (reordered : Reordered (.table entries) (.table entries')) :
    DescribesToolchain entries' toolchain := by
  cases reordered with
  | same => exact describes
  | table keys each => exact {
      known := known_reordered keys describes.known
      root := given_reordered keys each describes.root (stays_of_plain not_isSomeText)
      maxConcurrentRuns :=
        given_reordered keys each describes.maxConcurrentRuns (stays_of_plain not_isCount) }

/-- A section that describes something still does. -/
theorem stays_of_section {α : Type} {a : α} {describes : Entries → α → Prop}
    (stays : ∀ inner inner', describes inner a → Reordered (.table inner) (.table inner') →
      describes inner' a) (v v' : Value) (reordered : Reordered v v')
    (is : IsSection describes v a) : IsSection describes v' a := by
  obtain ⟨inner, rfl, described⟩ := is
  cases reordered with
  | same => exact ⟨inner, rfl, described⟩
  | table keys each => exact ⟨_, rfl, stays inner _ described (.table keys each)⟩

/-- **Order**: a document describes what it described, when its keys come in another order. -/
theorem Describes.reordered {entries' : Entries} (describes : Describes entries config)
    (reordered : Reordered (.table entries) (.table entries')) : Describes entries' config := by
  cases reordered with
  | same => exact describes
  | table keys each => exact {
      known := known_reordered keys describes.known
      stateFile := given_reordered keys each describes.stateFile (stays_of_plain nofun)
      logFile := given_reordered keys each describes.logFile (stays_of_plain not_isSomeText)
      logLevel := given_reordered keys each describes.logLevel (stays_of_plain not_namesLevel)
      index := given_reordered keys each describes.index
        (stays_of_section fun _ _ described => described.reordered)
      toolchain := given_reordered keys each describes.toolchain
        (stays_of_section fun _ _ described => described.reordered) }

/-! ## Complaints -/

/-- What is wrong with a document. -/
def wrongWith (entries : Entries) : List Complaint := (check (.table entries)).complaints

theorem complaints_check (entries : Entries) : wrongWith entries =
    fieldComplaints entries "state_file" text ++ (fieldComplaints entries "log_file" optionalText ++
      fieldComplaints entries "log_level" checkLogLevel) ++
    (fieldComplaints entries "index" checkIndex ++
      fieldComplaints entries "toolchain" checkToolchain) ++ strangers entries topKeys := by
  unfold wrongWith check model
  dsimp only
  simp only [complaints_map, complaints_both, complaints_field, complaints_noOthers]
  rfl

theorem complaints_checkIndex (inner : Entries) : (checkIndex (.table inner)).complaints =
    fieldComplaints inner "skip_dirs" checkSkipped ++
      fieldComplaints inner "respect_gitignore" Schema.bool ++ strangers inner indexKeys := by
  unfold checkIndex model
  dsimp only
  simp only [complaints_map, complaints_both, complaints_field, complaints_noOthers]
  rfl

theorem complaints_checkToolchain (inner : Entries) : (checkToolchain (.table inner)).complaints =
    fieldComplaints inner "root" optionalText ++
      fieldComplaints inner "max_concurrent_runs" (optionalAtLeast 1) ++
      strangers inner toolchainKeys := by
  unfold checkToolchain model
  dsimp only
  simp only [complaints_map, complaints_both, complaints_field, complaints_noOthers]
  rfl

theorem fieldComplaints_single {α : Type} (key key' : String) (v : Value)
    (check : Value → Checked α) : fieldComplaints [(key', v)] key check =
      if key' = key then (check v).complaints.map (inside (.key key)) else [] := by
  unfold fieldComplaints Value.get?
  by_cases same : key' = key
  · subst same
    simp
  · have other : (key == key') = false := beq_false_of_ne (Ne.symm same)
    simp [List.lookup_cons, other, same]

/-! ### One field alone -/

/-- What is wrong with a value in a document, by its key. -/
def problems : String → Value → List Complaint
  | "state_file", v => (text v).complaints
  | "log_file", v => (optionalText v).complaints
  | "log_level", v => (checkLogLevel v).complaints
  | "index", v => (checkIndex v).complaints
  | "toolchain", v => (checkToolchain v).complaints
  | _, _ => [⟨[], .unknown⟩]

/-- The same in the section on the index. -/
def indexProblems : String → Value → List Complaint
  | "skip_dirs", v => (checkSkipped v).complaints
  | "respect_gitignore", v => (Schema.bool v).complaints
  | _, _ => [⟨[], .unknown⟩]

/-- The same in the section on the toolchain. -/
def toolchainProblems : String → Value → List Complaint
  | "root", v => (optionalText v).complaints
  | "max_concurrent_runs", v => (optionalAtLeast 1 v).complaints
  | _, _ => [⟨[], .unknown⟩]

theorem wrongWith_single (key : String) (v : Value) :
    wrongWith [(key, v)] = (problems key v).map (inside (.key key)) := by
  rw [complaints_check]
  simp only [fieldComplaints_single]
  -- the key is that of one of the fields, or a stranger
  fun_cases problems key v <;> simp_all [strangers, topKeys, inside]

theorem checkIndex_single (key : String) (v : Value) :
    (checkIndex (.table [(key, v)])).complaints =
      (indexProblems key v).map (inside (.key key)) := by
  rw [complaints_checkIndex]
  simp only [fieldComplaints_single]
  fun_cases indexProblems key v <;> simp_all [strangers, indexKeys, inside]

theorem checkToolchain_single (key : String) (v : Value) :
    (checkToolchain (.table [(key, v)])).complaints =
      (toolchainProblems key v).map (inside (.key key)) := by
  rw [complaints_checkToolchain]
  simp only [fieldComplaints_single]
  fun_cases toolchainProblems key v <;> simp_all [strangers, toolchainKeys, inside]

/-- What is wrong with the field of a key, if it is there, in a document of its own. -/
def alone (entries : Entries) (key : String) : List Complaint :=
  match Value.get? key entries with
  | some v => wrongWith [(key, v)]
  | none => []

/-- The same of a field in a part of a document: the other one has this part with this field only. -/
def aloneIn (part : String) (inner : Entries) (key : String) : List Complaint :=
  match Value.get? key inner with
  | some v => wrongWith [(part, .table [(key, v)])]
  | none => []

theorem alone_eq {α : Type} (entries : Entries) (key : String) {check : Value → Checked α}
    (same : ∀ v, problems key v = (check v).complaints) :
    alone entries key = fieldComplaints entries key check := by
  unfold alone fieldComplaints
  cases Value.get? key entries with
  | none => rfl
  | some v =>
    dsimp only
    rw [wrongWith_single, same]

theorem aloneIn_eq {α : Type} (part : String) (inner : Entries) (key : String)
    {check : Value → Checked α}
    (same : ∀ v, problems part (.table [(key, v)]) = (check v).complaints.map (inside (.key key))) :
    aloneIn part inner key = (fieldComplaints inner key check).map (inside (.key part)) := by
  unfold aloneIn fieldComplaints
  cases Value.get? key inner with
  | none => rfl
  | some v =>
    dsimp only
    rw [wrongWith_single, same]

/-! ### The whole document -/

/-- What is said about a part of a document that should be a table with some fields: what is wrong
    with each of them alone, and then the keys that it should not have. -/
def partReport (entries : Entries) (part model : String) (fields : List String) : List Complaint :=
  match Value.get? part entries with
  | none => []
  | some (.table inner) =>
    fields.flatMap (aloneIn part inner) ++ (strangers inner fields).map (inside (.key part))
  | some _ => [⟨[.key part], .notModel model⟩]

/-- What is said about a document. -/
def report (entries : Entries) : List Complaint :=
  ["state_file", "log_file", "log_level"].flatMap (alone entries) ++
    partReport entries "index" "IndexConfig" indexKeys ++
    partReport entries "toolchain" "ToolchainConfig" toolchainKeys ++ strangers entries topKeys

theorem partReport_eq {α : Type} (entries : Entries) (part name : String) {fields : List String}
    {check : Value → Checked α}
    (table : ∀ inner, (check (.table inner)).complaints.map (inside (.key part)) =
      fields.flatMap (aloneIn part inner) ++ (strangers inner fields).map (inside (.key part)))
    (other : ∀ v, (∀ inner, v ≠ .table inner) → check v = complain (.notModel name)) :
    fieldComplaints entries part check = partReport entries part name fields := by
  unfold fieldComplaints partReport
  cases Value.get? part entries with
  | none => rfl
  | some v =>
    dsimp only
    split
    · cases ‹some v = none›
    · rename_i inner same
      cases same
      exact table inner
    · rename_i v' no_table same
      cases same
      rw [other v no_table]
      rfl

/-- **Complaints**: what is wrong with a document is what is wrong with its fields alone, in their
    order, with the keys that no table should have after the fields of that table. -/
theorem wrongWith_eq_report (entries : Entries) : wrongWith entries = report entries := by
  have index : fieldComplaints entries "index" checkIndex =
      partReport entries "index" "IndexConfig" indexKeys := by
    refine partReport_eq entries "index" "IndexConfig" (fun inner => ?_)
      fun v no_table => model_complains no_table
    have skipped := aloneIn_eq "index" inner "skip_dirs" (checkIndex_single "skip_dirs")
    have respects := aloneIn_eq "index" inner "respect_gitignore"
      (checkIndex_single "respect_gitignore")
    rw [complaints_checkIndex, List.map_append, List.map_append]
    simp [indexKeys, skipped, respects]
  have toolchain : fieldComplaints entries "toolchain" checkToolchain =
      partReport entries "toolchain" "ToolchainConfig" toolchainKeys := by
    refine partReport_eq entries "toolchain" "ToolchainConfig" (fun inner => ?_)
      fun v no_table => model_complains no_table
    have root := aloneIn_eq "toolchain" inner "root" (checkToolchain_single "root")
    have most := aloneIn_eq "toolchain" inner "max_concurrent_runs"
      (checkToolchain_single "max_concurrent_runs")
    rw [complaints_checkToolchain, List.map_append, List.map_append]
    simp [toolchainKeys, root, most]
  rw [complaints_check, index, toolchain, ← alone_eq entries "state_file" fun _ => rfl,
    ← alone_eq entries "log_file" fun _ => rfl, ← alone_eq entries "log_level" fun _ => rfl]
  simp [report]

/-- The complaints about one field are about its key. -/
theorem place_single {key : String} {e : Complaint} (listed : e ∈ wrongWith [(key, v)]) :
    ∃ rest, e.place = .key key :: rest := by
  rw [wrongWith_single] at listed
  obtain ⟨e, -, rfl⟩ := List.mem_map.mp listed
  exact ⟨e.place, rfl⟩

/-- The complaints about one field in a part are about its key in this part. -/
theorem place_part {part key : String} {e : Complaint} (is_part : part ∈ ["index", "toolchain"])
    (listed : e ∈ wrongWith [(part, .table [(key, v)])]) :
    ∃ rest, e.place = .key part :: .key key :: rest := by
  have problems_eq : ∃ problems' : List Complaint,
      problems part (.table [(key, v)]) = problems'.map (inside (.key key)) := by
    rcases List.mem_pair.mp is_part with rfl | rfl
    · exact ⟨_, checkIndex_single key v⟩
    · exact ⟨_, checkToolchain_single key v⟩
  obtain ⟨problems', is⟩ := problems_eq
  rw [wrongWith_single, is, List.map_map] at listed
  obtain ⟨e, -, rfl⟩ := List.mem_map.mp listed
  exact ⟨e.place, rfl⟩

theorem place_alone {key : String} {e : Complaint} (listed : e ∈ alone entries key) :
    ∃ rest, e.place = .key key :: rest := by
  unfold alone at listed
  split at listed
  · exact place_single listed
  · cases listed

theorem place_aloneIn {part key : String} {e : Complaint} (is_part : part ∈ ["index", "toolchain"])
    (listed : e ∈ aloneIn part entries key) : ∃ rest, e.place = .key part :: .key key :: rest := by
  unfold aloneIn at listed
  split at listed
  · exact place_part is_part listed
  · cases listed

/-! ### Reasons -/

theorem grounded_checkLogLevel : Grounded (checkLogLevel v) := by
  unfold checkLogLevel choice
  repeat' split
  all_goals nofun

theorem grounded_checkSkipped : Grounded (checkSkipped v) := by
  have grounded := @grounded_texts v
  unfold checkSkipped
  split
  · rename_i is
    rw [is] at grounded
    exact fun none => grounded (congrArg Except.error (Except.error.inj none))
  · split <;> nofun

theorem grounded_checkIndex : Grounded (checkIndex v) :=
  grounded_model fun _ => (((grounded_field fun _ => grounded_checkSkipped).both
    (grounded_field fun _ => grounded_bool)).both grounded_noOthers).map _

theorem grounded_checkToolchain : Grounded (checkToolchain v) :=
  grounded_model fun _ => (((grounded_field fun _ => grounded_optionalText).both
    (grounded_field fun _ => grounded_optionalAtLeast 1)).both grounded_noOthers).map _

/-- A document is not refused without a complaint. -/
theorem grounded_check : Grounded (check v) :=
  grounded_model fun _ => (((((grounded_field fun _ => grounded_text).both
    ((grounded_field fun _ => grounded_optionalText).both
      (grounded_field fun _ => grounded_checkLogLevel))).both
    ((grounded_field fun _ => grounded_checkIndex).both
      (grounded_field fun _ => grounded_checkToolchain))).both grounded_noOthers)).map _

/-! ## Strictness -/

theorem ofText_of_read {path : String} {text : List Char} (parses : Toml.read text = .ok entries) :
    ofText path text = ofEntries path entries := by
  unfold ofText
  rw [parses]

theorem defines_of_read {text : List Char} (parses : Toml.read text = .ok entries) :
    Defines entries := by
  obtain ⟨_, is, defines⟩ | is | ⟨n, is, -⟩ := Toml.read_cases text
  all_goals
    rw [parses] at is
    cases is
  exact defines

theorem ofText_eq_ok {path : String} {text : List Char} (parses : Toml.read text = .ok entries) :
    ofText path text = .ok config ↔ Describes entries config := by
  rw [← check_eq_ok (defines_of_read parses), ofText_of_read parses]
  unfold ofEntries
  cases check (.table entries) <;> simp

/-- What becomes of a document that is no configuration: it is refused with the report on it.  That
    is not empty, its complaints name the fields that they are about, and there is only one about
    each key that should not be there, for no key is given twice. -/
structure Reported (path : String) (entries : Entries) (outcome : Except Failure Config) : Prop where
  refused : outcome = .error (.config (.invalid path "EditorConfig" (report entries)))
  some_complaint : report entries ≠ []
  place : ∀ key, ∀ e ∈ alone entries key, ∃ rest, e.place = .key key :: rest
  place_in : ∀ part ∈ ["index", "toolchain"], ∀ inner key, ∀ e ∈ aloneIn part inner key,
    ∃ rest, e.place = .key part :: .key key :: rest
  once : (entries.map (·.1)).Nodup
  once_in : ∀ part inner, Value.get? part entries = some (.table inner) →
    (inner.map (·.1)).Nodup

theorem reported_of_undescribed {path : String} {text : List Char}
    (parses : Toml.read text = .ok entries) (undescribed : ¬ ∃ config, Describes entries config) :
    Reported path entries (ofText path text) := by
  have defines := defines_of_read parses
  have refused : check (.table entries) = .error (report entries) := by
    rw [← wrongWith_eq_report]
    exact eq_error_of_not_ok fun ⟨config, is⟩ => undescribed ⟨config, (check_eq_ok defines).mp is⟩
  exact {
    refused := by
      rw [ofText_of_read parses]
      unfold ofEntries
      rw [refused]
    some_complaint := fun silent => grounded_check (silent ▸ refused)
    place := fun _ _ listed => place_alone listed
    place_in := fun _ is_part _ _ _ listed => place_aloneIn is_part listed
    once := defines.distinct
    once_in := fun _ _ found => Defines.distinct (defines.get? found) }

/-- **Strictness**: a document in the file is a configuration just if it describes one, and then this
    one, in whatever order its keys come.  Any other document is reported. -/
theorem load_strict {h : Host} {directory : String} {text : List Char}
    (there : h.files.read (file directory) = .ok (Utf8.encode text))
    (parses : Toml.read text = .ok entries) :
    (∀ config, load h directory = .ok config ↔ Describes entries config) ∧
    (∀ path text' entries' config, Toml.read text' = .ok entries' →
      Reordered (.table entries) (.table entries') → load h directory = .ok config →
      ofBytes path (Utf8.encode text') = .ok config) ∧
    ((¬ ∃ config, load h directory = .ok config) →
      Reported (file directory) entries (load h directory)) := by
  rw [load_of_read there, ofBytes_encode]
  refine ⟨fun config => ofText_eq_ok parses, ?_, ?_⟩
  · intro path text' entries' config parses' reordered accepted
    rw [ofBytes_encode]
    exact (ofText_eq_ok parses').mpr (((ofText_eq_ok parses).mp accepted).reordered reordered)
  · intro rejected
    refine reported_of_undescribed parses ?_
    rintro ⟨config, describes⟩
    exact rejected ⟨config, (ofText_eq_ok parses).mpr describes⟩

/-! A file with a single line. -/

def levelText : List Char := "log_level='debug'".toList

theorem read_levelText : Toml.read levelText = .ok [("log_level", .text "debug")] :=
  read_of_isEntry (by decide +kernel)

theorem describes_levelText : Describes [("log_level", .text "debug")] { logLevel := .debug } where
  known := by decide
  stateFile := rfl
  logFile := rfl
  logLevel := ⟨"debug", rfl, by decide +kernel⟩
  index := rfl
  toolchain := rfl

theorem load_strict_level :
    (configured (Utf8.encode levelText)).files.read (file "/w") = .ok (Utf8.encode levelText) ∧
    Toml.read levelText = .ok [("log_level", .text "debug")] ∧
    load (configured (Utf8.encode levelText)) "/w" = .ok { logLevel := .debug } := by
  have there := read_configured (Utf8.encode levelText)
  exact ⟨there, read_levelText, ((load_strict there read_levelText).1 _).mpr describes_levelText⟩

end GoWorkbench.Config
