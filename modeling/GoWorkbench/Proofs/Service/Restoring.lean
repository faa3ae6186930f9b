/-
  Starting with the workspace that is remembered.

  A service starts with the workspace of its last time.  The state file may be gone or hold
  anything by then, and the workspace and even the working directory may have been removed.

  1. **Memory** — what is loaded is a directory just if the bytes of the state file are a state with
     one (`load_remembers`).
  2. **Falling back** — the path of the working directory names a directory, if it is one that the
     system takes (`isDirectory_working`).
  3. **Starting** — so a service starts with the directory that is remembered, or with the working
     directory, or with none, and schedules one rebuild for it (`start_begins`).
  4. **Too deep** — the working directory may lie so deep that the system does not take its path, and
     then a service starts with a workspace that no path leads to (`start_too_deep`).
-/
import GoWorkbench.Proofs.FileSystem.Depths
import GoWorkbench.Proofs.FileSystem.Straight
import GoWorkbench.Proofs.Service.Persisting
import GoWorkbench.Proofs.Service.Rooting

namespace GoWorkbench

open Entry FileSystem

namespace Service

variable {s after : Service} {answer : Option String} {path root : String}

/-! ## Memory -/

/-- The state file holds a state with the path, which leads to a directory. -/
def Remembers (s : Service) (path : String) : Prop :=
  ∃ data, s.host.files.read s.statePath = .ok data ∧ SavedState.IsState data path ∧
    s.host.files.isDirectory path = true

/-- **Memory**: something is loaded, be it nothing, and it is a directory just if that is
    remembered. -/
theorem load_remembers (no_nul : '\x00' ∉ s.statePath.toList) :
    ∃ loaded host, SavedState.load s.host s.statePath = (.ok loaded, host) ∧
      host.files = s.host.files ∧
      ∀ path, s.Remembers path ↔ loaded = path ∧ s.host.files.isDirectory path = true := by
  -- where nothing is remembered, the empty text is loaded, and that is no directory
  have nothing : (∀ data workspace, s.host.files.read s.statePath = .ok data →
      ¬ SavedState.IsState data workspace) →
      ∀ path, s.Remembers path ↔ "" = path ∧ s.host.files.isDirectory path = true := by
    intro none path
    constructor
    · rintro ⟨data, read, is, -⟩
      exact absurd is (none data path read)
    · rintro ⟨rfl, there⟩
      exact absurd rfl (ne_empty_of_isDirectory there)
  have ends := SavedState.load_ends s.host s.statePath
  generalize SavedState.load s.host s.statePath = answer at ends ⊢
  cases ends with
  | @remembered data workspace read is =>
    refine ⟨workspace, s.host, rfl, rfl, fun path => ⟨?_, ?_⟩⟩
    · rintro ⟨other, also, is_path, there⟩
      obtain rfl := Except.ok.inj (read.symm.trans also)
      exact ⟨is.unique is_path, there⟩
    · rintro ⟨rfl, there⟩
      exact ⟨data, read, is, there⟩
  | missing none =>
    refine ⟨"", s.host, rfl, rfl, nothing fun data workspace read => ?_⟩
    rw [none] at read
    cases read
  | ignored none => exact ⟨"", _, rfl, rfl, nothing none⟩
  | nul given => exact absurd given no_nul

/-! ## Falling back -/

theorem isDirectory_of_error {fs : FileSystem} {t : Trouble} (refused : fs.find path = .error t) :
    fs.isDirectory path = false := by
  unfold isDirectory
  rw [refused]

/-- **Falling back**: the path of the working directory names it, if the system takes it. -/
theorem isDirectory_working {fs : FileSystem} {here : String} (orderly : fs.Orderly)
    (working : fs.workingDirectory = .ok here) (passable : Passable here) :
    fs.isDirectory here = true := by
  obtain ⟨absolute, named⟩ := components_workingDirectory orderly.names working
  obtain ⟨inner, there⟩ := orderly.working working
  have leads : LeadsTo here fs.current.names := ⟨absolute, named, orderly.names⟩
  exact isDirectory_of_find (leads.find passable there (fits_directory _ _))

/-! ## Starting -/

/-- The service has been restored with the answer: the directory that is remembered, or else the
    working directory if it exists.  That is active then, and to start is to schedule one rebuild of
    it besides. -/
structure Begins (s : Service) (answer : Option String) (after : Service) : Prop where
  restores : s.restore = (.ok answer, after)
  remembered : ∀ path, s.Remembers path → answer = some path
  fallback : (∀ path, ¬ s.Remembers path) → answer = s.host.files.workingDirectory.toOption
  /-- What is active names a directory, unless it is the working directory and the system does not
      take its path. -/
  directory : ∀ root, answer = some root → s.host.files.isDirectory root = true ∨
    s.host.files.workingDirectory = .ok root ∧ ¬ Passable root
  active : after.workspace = answer.or s.workspace
  files : after.host.files = s.host.files
  starts : s.start = (.ok answer, answer.elim after after.schedule)
  once : s.start.2.index.started = s.index.started + if answer.isSome then 1 else 0

theorem schedule_workspace (s : Service) (root : String) :
    (s.schedule root).workspace = s.workspace := by
  unfold schedule
  rfl

/-- A rebuild that is scheduled takes one number. -/
theorem schedule_started (s : Service) (root : String) :
    (s.schedule root).index.started = s.index.started + 1 := by
  have published : ∀ (index : SymbolIndex) number symbols,
      (index.publish number symbols).2.started = index.started := by
    intro index number symbols
    unfold SymbolIndex.publish
    split <;> rfl
  unfold schedule SymbolIndex.rebuildUnattended SymbolIndex.rebuild
  dsimp only [SymbolIndex.start, SymbolIndex.take]
  cases Scan.symbols _ _ root with
  | error e => rfl
  | ok symbols => exact published _ _ _

theorem start_of_restore (restores : s.restore = (.ok answer, after))
    (same : after.index = s.index) : s.start = (.ok answer, answer.elim after after.schedule) ∧
      s.start.2.index.started = s.index.started + if answer.isSome then 1 else 0 := by
  have starts : s.start = (.ok answer, answer.elim after after.schedule) := by
    unfold start
    rw [restores]
    cases answer <;> rfl
  rw [starts]
  refine ⟨rfl, ?_⟩
  rw [← same]
  cases answer with
  | none => rfl
  | some root => exact schedule_started after root

/-- **Starting**: a service starts with the directory that is remembered, or with the working
    directory, or with none, and schedules one rebuild for it. -/
theorem start_begins (orderly : s.host.files.Orderly) (no_nul : '\x00' ∉ s.statePath.toList) :
    ∃ answer after, Begins s answer after := by
  obtain ⟨loaded, host, loads, files, remembers⟩ := load_remembers no_nul
  generalize is : (if s.host.files.isDirectory loaded then some loaded
    else s.host.files.workingDirectory.toOption) = answer
  have restores := restore_eq loads is.symm
  obtain ⟨active, same, index⟩ := activated_keeps s host answer
  obtain ⟨starts, once⟩ := start_of_restore restores index
  refine ⟨answer, _, restores, fun path memory => ?_, fun nothing => ?_, fun root started => ?_,
    active, same.trans files, starts, once⟩
  · obtain ⟨rfl, there⟩ := (remembers path).mp memory
    rw [← is, if_pos there]
  · rw [← is, if_neg fun there => nothing loaded ((remembers loaded).mpr ⟨rfl, there⟩)]
  · rw [started] at is
    obtain there | working := restored_cases is
    · exact Or.inl there
    · by_cases passable : Passable root
      · exact Or.inl (isDirectory_working orderly working passable)
      · exact Or.inr ⟨working, passable⟩

/-- A state file at the root that remembers a directory beside it. -/
def mindful : FileSystem :=
  ⟨[("editor_config.json", .file (SavedState.toBytes "/w") false), ("w", .directory [])], .root⟩

theorem orderly_mindful : mindful.Orderly := by
  refine Sound.orderly ⟨?_, linkFree_of_countLinks (by simp [mindful, countLinks]),
    stands_root _, by decide⟩
  simp only [mindful, Entry.Proper]
  decide

theorem start_begins_mindful : mindful.Orderly ∧ '\x00' ∉ (serving mindful).statePath.toList ∧
    ∃ after, Begins (serving mindful) (some "/w") after := by
  have plain : '\x00' ∉ (serving mindful).statePath.toList := by decide
  obtain ⟨answer, after, begins⟩ := start_begins (s := serving mindful) orderly_mindful plain
  have memory : (serving mindful).Remembers "/w" := by
    have leads_file : LeadsTo "/editor_config.json" ["editor_config.json"] :=
      ⟨rfl, rfl, by decide⟩
    have leads : LeadsTo "/w" ["w"] := ⟨rfl, rfl, by decide⟩
    refine ⟨SavedState.toBytes "/w", ?_, SavedState.ofBytes_eq_some.mp
      (SavedState.ofBytes_toBytes "/w"), ?_⟩
    · exact leads_file.read (leads_file.passable (by decide) (by decide)) rfl (by decide)
    · exact isDirectory_of_find (leads.find (leads.passable (by decide) (by decide))
        (rfl : Entry.at? ["w"] mindful.entries = some (.directory [])) (fits_directory _ _))
  rw [begins.remembered "/w" memory] at begins
  exact ⟨orderly_mindful, plain, after, begins⟩

/-! ## Too deep -/

/-- Nothing but a working directory within the deepest directory whose path a system takes. -/
def tooDeep : FileSystem where
  entries := nested longName [("d", .directory [])] 63
  current := ⟨deepest ++ ["d"], 0⟩

theorem orderly_tooDeep : tooDeep.Orderly where
  proper := by
    refine proper_nested isName_longName ?_
    simp only [Proper]
    decide
  stands := stands_of_dirAt ⟨[], at?_nested⟩
  names := fun n listed => (List.mem_append.mp listed).elim (deepest_valid n) fun is => by
    rw [List.mem_singleton.mp is]
    decide
  targets := by
    intro route target h
    have routes : linkRoutes tooDeep.entries = [] := by
      unfold tooDeep
      rw [linkRoutes_nested]
      simp [linkRoutes]
    have listed := mem_linkRoutes_of_at? (at?_of_leafAt h)
    rw [routes] at listed
    cases listed

/-- There is no state file. -/
theorem read_tooDeep : tooDeep.read "/editor_config.json" = .error .missing := by
  have leads : LeadsTo "/editor_config.json" ([] ++ ["editor_config.json"]) := ⟨rfl, rfl, by decide⟩
  have reaches : tooDeep.reach .look "/editor_config.json" = .ok (.vacant .root _) :=
    leads.reach_vacant (leads.passable (by decide) (by decide)) (by decide) dirAt_nil rfl
  unfold FileSystem.read FileSystem.find
  rw [reaches]

/-- **Too deep**: nothing is remembered, and the service starts with the working directory, whose
    path names no directory, for the system does not take it. -/
theorem start_too_deep : tooDeep.Orderly ∧ '\x00' ∉ (serving tooDeep).statePath.toList ∧
    (∀ path, ¬ (serving tooDeep).Remembers path) ∧
    ∃ root, tooDeep.workingDirectory = .ok root ∧ (serving tooDeep).start.1 = .ok (some root) ∧
      (serving tooDeep).start.2.workspace = some root ∧ tooDeep.isDirectory root = false := by
  have loads : SavedState.load (serving tooDeep).host (serving tooDeep).statePath =
      (.ok "", (serving tooDeep).host) := by
    unfold SavedState.load
    dsimp only
    rw [show (serving tooDeep).host.files.read (serving tooDeep).statePath = .error .missing from
      read_tooDeep]
  have working : tooDeep.workingDirectory = .ok ("/" ++ Path.slashed (deepest ++ ["d"])) := by
    unfold workingDirectory
    rw [if_neg (by decide), show tooDeep.current.names = deepest ++ ["d"] from rfl]
  have valid : ∀ n ∈ deepest ++ ["d"], IsName n := orderly_tooDeep.names
  have nowhere : tooDeep.isDirectory ("/" ++ Path.slashed (deepest ++ ["d"])) = false :=
    isDirectory_of_error (find_of_long (long_below "d" []) (leadsTo_slashed valid))
  generalize "/" ++ Path.slashed (deepest ++ ["d"]) = root at working nowhere
  have fallback : some root = if tooDeep.isDirectory "" then some ""
      else tooDeep.workingDirectory.toOption := by
    rw [working, show tooDeep.isDirectory "" = false from rfl]
    rfl
  obtain ⟨starts, -⟩ := start_of_restore (restore_eq loads fallback) rfl
  obtain ⟨active, -⟩ := activated_keeps (serving tooDeep) (serving tooDeep).host (some root)
  refine ⟨orderly_tooDeep, by decide, ?_, root, working, ?_, ?_, nowhere⟩
  · rintro path ⟨data, read, -⟩
    rw [show (serving tooDeep).host.files.read (serving tooDeep).statePath = .error .missing from
      read_tooDeep] at read
    cases read
  · rw [starts]
  · rw [starts, Option.elim_some, schedule_workspace]
    exact active

end Service

end GoWorkbench
