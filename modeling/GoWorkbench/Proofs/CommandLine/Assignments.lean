/-
  From the arguments of the command line to settings.

  Each `--env` argument sets one variable of the toolchain; what stands before its first `=` is the
  name, and everything after that the value.

  1. **Arguments** — what an argument assigns, and which arguments are at fault.
  2. **Settings** — of the arguments for one variable the last one holds (`settingsOf_ok`), unless
     one of all the arguments assigns nothing (`settingsOf_malformed`).  The settings are accepted
     just if no argument is at fault (`settings_accepted`, `settings_refused`).
-/
import Mathlib.Data.List.TakeWhile
import GoWorkbench.Proofs.CommandLine.Starting
import GoWorkbench.Proofs.Service.Variables

namespace GoWorkbench.CommandLine

open FileSystem GoWorkbench.Text

variable {argument key value name : String} {arguments rest : List String}
  {settings result : Settings}

/-! ## Arguments -/

/-- The argument assigns a value to a variable. -/
structure Assigns (argument key value : String) : Prop where
  text : argument = key ++ "=" ++ value
  /-- The sign is the first one. -/
  first : '=' ∉ key.toList
  named : key ≠ ""

/-- The argument assigns nothing: it has no sign, or no name before it. -/
def Malformed (argument : String) : Prop :=
  '=' ∉ argument.toList ∨ ∃ value, argument = "=" ++ value

/-- An argument that sets no variable of the toolchain. -/
inductive Faulty (argument : String) : Prop
  | malformed (h : Malformed argument)
  | foreign (key value : String) (h : Assigns argument key value)
      (foreign : key ∉ toolchainVariables)

/-- The value that an argument gives a variable. -/
def valueFor? (name argument : String) : Option String :=
  let start := (name ++ "=").toList
  if start <+: argument.toList then some (String.ofList (argument.toList.drop start.length))
  else none

/-- The value that the last argument for a variable gives it. -/
def lastValue (arguments : List String) (name : String) : Option String :=
  (arguments.filterMap (valueFor? name)).getLast?

theorem valueFor_iff : valueFor? name argument = some value ↔ argument = name ++ "=" ++ value := by
  unfold valueFor?
  dsimp only
  constructor
  · intro h
    split at h
    · rename_i starts
      obtain ⟨after, is⟩ := starts
      rw [← is, List.drop_left, Option.some.injEq] at h
      rw [← h, ← String.toList_inj, String.toList_append, String.toList_ofList, is]
    · cases h
  · rintro rfl
    rw [show (name ++ "=" ++ value).toList = (name ++ "=").toList ++ value.toList from
      String.toList_append, if_pos (List.prefix_append _ _), List.drop_left, String.ofList_toList]

/-- What is cut off at the first sign. -/
theorem splitValue_append {before : List Char} (first : '=' ∉ before) (after : List Char) :
    splitValue (before ++ '=' :: after) = (before, some after) := by
  have passes : ∀ c ∈ before, decide (c ≠ '=') = true := fun c hc =>
    decide_eq_true fun is => first (is ▸ hc)
  unfold splitValue
  rw [List.takeWhile_append_of_pos passes, List.dropWhile_append_of_pos passes]
  simp

theorem splitValue_of_unsigned {cs : List Char} (h : '=' ∉ cs) : splitValue cs = (cs, none) := by
  have passes : ∀ c ∈ cs, decide (c ≠ '=') = true := fun c hc =>
    decide_eq_true fun is => h (is ▸ hc)
  have whole : cs.takeWhile (· ≠ '=') = cs := List.takeWhile_eq_self_iff.mpr passes
  have nothing : cs.dropWhile (· ≠ '=') = [] := List.dropWhile_eq_nil_iff.mpr passes
  unfold splitValue
  rw [whole, nothing]

/-- **Arguments**: an argument that is not malformed assigns a value. -/
theorem malformed_or_assigns (argument : String) :
    Malformed argument ∨ ∃ key value, Assigns argument key value := by
  by_cases signed : '=' ∈ argument.toList
  · obtain ⟨before, after, is, first⟩ := List.eq_append_cons_of_mem signed
    have text : argument = String.ofList before ++ "=" ++ String.ofList after := by
      rw [← String.toList_inj, is]
      simp
    by_cases named : String.ofList before = ""
    · rw [named] at text
      exact Or.inl (Or.inr ⟨_, text⟩)
    · refine Or.inr ⟨_, _, text, ?_, named⟩
      rw [String.toList_ofList]
      exact first
  · exact Or.inl (Or.inl signed)

/-- The name before the first sign, and the value after it, are all that an argument assigns. -/
theorem Assigns.valueFor (h : Assigns argument key value) (plain : '=' ∉ name.toList) :
    valueFor? name argument = if key = name then some value else none := by
  split
  · rename_i is
    exact valueFor_iff.mpr (is ▸ h.text)
  · rename_i other
    cases given : valueFor? name argument with
    | none => rfl
    | some value' =>
      -- the argument would be cut at two places
      have text := valueFor_iff.mp given
      rw [h.text, ← String.toList_inj] at text
      have cut := splitValue_append h.first value.toList
      have cut' := splitValue_append plain value'.toList
      have lists : key.toList ++ '=' :: value.toList = name.toList ++ '=' :: value'.toList := by
        simpa using text
      rw [lists, cut'] at cut
      exact absurd (String.toList_inj.mp (Prod.mk.inj cut).1).symm other

theorem lastValue_cons (argument : String) (rest : List String) (name : String) :
    lastValue (argument :: rest) name = (lastValue rest name).or (valueFor? name argument) := by
  unfold lastValue
  rw [List.filterMap_cons]
  cases valueFor? name argument with
  | none => exact (Option.or_none).symm
  | some value =>
    show (([value] ++ rest.filterMap (valueFor? name)).getLast?) = _
    rw [List.getLast?_append]
    rfl

/-- A variable that some argument gives a value has a last value. -/
theorem lastValue_of_mem (listed : argument ∈ arguments)
    (given : valueFor? name argument = some value) :
    ∃ last, lastValue arguments name = some last := by
  have some_value : value ∈ arguments.filterMap (valueFor? name) :=
    List.mem_filterMap.mpr ⟨argument, listed, given⟩
  exact ⟨_, List.getLast?_eq_some_getLast (List.ne_nil_of_mem some_value)⟩

/-! ## Settings -/

theorem Assigns.settingsOf_cons (h : Assigns argument key value) (settings : Settings)
    (rest : List String) : settingsOf settings (argument :: rest) =
      settingsOf (Host.setVariable key value settings) rest := by
  have cut : splitValue argument.toList = (key.toList, some value.toList) := by
    rw [h.text, String.toList_append, String.toList_append, List.append_assoc]
    exact splitValue_append h.first _
  rw [settingsOf, cut]
  cases letters : key.toList with
  | nil => exact absurd (String.toList_eq_nil_iff.mp letters) h.named
  | cons c cs =>
    show settingsOf (Host.setVariable (String.ofList (c :: cs)) (String.ofList value.toList)
      settings) rest = _
    rw [← letters, String.ofList_toList, String.ofList_toList]

/-- An argument that assigns nothing stops the reading. -/
theorem Malformed.settingsOf_cons (h : Malformed argument) (settings : Settings)
    (rest : List String) :
    settingsOf settings (argument :: rest) = .error (.malformedSetting argument) := by
  rw [settingsOf]
  rcases h with unsigned | ⟨value, rfl⟩
  · rw [splitValue_of_unsigned unsigned]
    split <;> rename_i is
    · rfl
    · rfl
    · cases is
  · rw [String.toList_append, show ("=" : String).toList ++ value.toList = [] ++ '=' :: value.toList
      from rfl, splitValue_append List.not_mem_nil]

theorem Assigns.not_malformed (h : Assigns argument key value) : ¬ Malformed argument := by
  intro malformed
  have stops := malformed.settingsOf_cons [] []
  rw [h.settingsOf_cons] at stops
  cases stops

theorem Assigns.key_unique {key' value' : String} (h : Assigns argument key value)
    (h' : Assigns argument key' value') : key' = key := by
  have given := h.valueFor h'.first
  rw [valueFor_iff.mpr h'.text] at given
  split at given
  · rename_i is
    exact is.symm
  · cases given

/-- An argument for a variable of the toolchain is not at fault. -/
theorem Assigns.not_faulty (h : Assigns argument key value) (known : key ∈ toolchainVariables) :
    ¬ Faulty argument := by
  rintro (malformed | ⟨key', value', assigns, foreign⟩)
  · exact h.not_malformed malformed
  · exact foreign (h.key_unique assigns ▸ known)

/-- Where one argument assigns nothing, there are no settings. -/
theorem settingsOf_malformed {faulty : String} (listed : faulty ∈ arguments)
    (malformed : Malformed faulty) (settings : Settings) :
    ∃ argument, settingsOf settings arguments = .error (.malformedSetting argument) := by
  induction arguments generalizing settings with
  | nil => cases listed
  | cons head rest ih =>
    rcases malformed_or_assigns head with stops | ⟨key, value, assigns⟩
    · exact ⟨head, stops.settingsOf_cons settings rest⟩
    · rw [assigns.settingsOf_cons]
      rcases List.mem_cons.mp listed with rfl | listed
      · exact absurd malformed assigns.not_malformed
      · exact ih listed _

/-- **Settings**: arguments that all assign values give settings, each variable once, with the last
    value for it; nothing else is set. -/
theorem settingsOf_ok (assign : ∀ argument ∈ arguments, ∃ key value, Assigns argument key value)
    (settings : Settings) : ∃ result, settingsOf settings arguments = .ok result ∧
      ((settings.map (·.1)).Nodup → (result.map (·.1)).Nodup) ∧
      (∀ name, '=' ∉ name.toList →
        result.lookup name = (lastValue arguments name).or (settings.lookup name)) ∧
      ∀ name ∈ result.map (·.1), name ∈ settings.map (·.1) ∨
        ∃ argument ∈ arguments, ∃ value, Assigns argument name value := by
  induction arguments generalizing settings with
  | nil => exact ⟨settings, rfl, id, fun _ _ => rfl, fun _ h => Or.inl h⟩
  | cons head rest ih =>
    obtain ⟨key, value, assigns⟩ := assign head List.mem_cons_self
    obtain ⟨result, is, distinct, values, names⟩ :=
      ih (fun a ha => assign a (List.mem_cons_of_mem _ ha)) (Host.setVariable key value settings)
    refine ⟨result, (assigns.settingsOf_cons settings rest).trans is,
      fun once => distinct (nodup_setVariable once), fun name plain => ?_, fun name hname => ?_⟩
    · rw [values name plain, lookup_setVariable, lastValue_cons, assigns.valueFor plain]
      split <;> simp
    · rcases names name hname with set | ⟨argument, listed, assigned⟩
      · rcases mem_names_setVariable set with rfl | before
        · exact Or.inr ⟨head, List.mem_cons_self, value, assigns⟩
        · exact Or.inl before
      · exact Or.inr ⟨argument, List.mem_cons_of_mem _ listed, assigned⟩

/-- Settings of anything else are refused. -/
theorem checkSettings_error (listed : name ∈ settings.map (·.1))
    (foreign : name ∉ toolchainVariables) :
    ∃ complaints, checkSettings settings = .error complaints := by
  have kept : name ∈ foreignVariables settings := by
    unfold foreignVariables
    rw [List.mem_mergeSort]
    exact List.mem_filter.mpr ⟨listed, decide_eq_true foreign⟩
  unfold checkSettings
  split
  · rename_i none_foreign
    rw [none_foreign] at kept
    cases kept
  · exact ⟨_, rfl⟩

/-- No name of a toolchain variable has a sign. -/
theorem unsigned_of_mem : ∀ name ∈ toolchainVariables, '=' ∉ name.toList := by decide

/-- Where no argument is at fault, each variable of the toolchain has the last value for it. -/
theorem settings_accepted (fine : ∀ argument ∈ arguments, ¬ Faulty argument) :
    ∃ result, settingsOf [] arguments = .ok result ∧ checkSettings result = .ok result ∧
      (result.map (·.1)).Nodup ∧
      (∀ name ∈ toolchainVariables, result.lookup name = lastValue arguments name) ∧
      ∀ name ∈ result.map (·.1), name ∈ toolchainVariables := by
  have assign : ∀ argument ∈ arguments, ∃ key value, Assigns argument key value :=
    fun argument listed => (malformed_or_assigns argument).resolve_left
      fun malformed => fine argument listed (.malformed malformed)
  obtain ⟨result, is, distinct, values, names⟩ := settingsOf_ok assign []
  have known : ∀ name ∈ result.map (·.1), name ∈ toolchainVariables := by
    intro name hname
    rcases names name hname with before | ⟨argument, listed, value, assigned⟩
    · cases before
    · by_contra foreign
      exact fine argument listed (.foreign name value assigned foreign)
  refine ⟨result, is, checkSettings_ok known, distinct List.nodup_nil, fun name hname => ?_, known⟩
  rw [values name (unsigned_of_mem name hname), List.lookup_nil, Option.or_none]

/-- Where an argument is at fault, there are no settings, or they are not accepted. -/
theorem settings_refused {faulty : String} (listed : faulty ∈ arguments) (fault : Faulty faulty) :
    (∃ argument, settingsOf [] arguments = .error (.malformedSetting argument)) ∨
      ∃ result complaints, settingsOf [] arguments = .ok result ∧
        checkSettings result = .error complaints := by
  by_cases malformed : ∃ argument ∈ arguments, Malformed argument
  · obtain ⟨argument, listed, malformed⟩ := malformed
    exact Or.inl (settingsOf_malformed listed malformed [])
  · have assign : ∀ argument ∈ arguments, ∃ key value, Assigns argument key value :=
      fun argument listed => (malformed_or_assigns argument).resolve_left
        fun h => malformed ⟨argument, listed, h⟩
    obtain ⟨result, is, -, values, -⟩ := settingsOf_ok assign []
    cases fault with
    | malformed h => exact absurd ⟨faulty, listed, h⟩ malformed
    | foreign key value assigned foreign =>
      obtain ⟨last, is_last⟩ := lastValue_of_mem listed (valueFor_iff.mpr assigned.text)
      have set := values key assigned.first
      rw [is_last, Option.some_or] at set
      obtain ⟨complaints, refused⟩ := checkSettings_error (mem_names_of_lookup set) foreign
      exact Or.inr ⟨result, complaints, is, refused⟩

end GoWorkbench.CommandLine
