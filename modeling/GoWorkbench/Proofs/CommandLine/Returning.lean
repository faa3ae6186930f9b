/-
  A workspace that is remembered comes back as the same directory.

  A state file holds the path of the workspace as it was given, and whoever restores it walks that
  path again, perhaps from another working directory.

  1. **Wandering** — a change of the working directory changes no entry (`Wanders.entries`).
  2. **State files** — the state file of a configuration with an absolute directory has an absolute
     path (`isAbsolute_statePath`).
  3. **Returns** — so a workspace with an absolute path is the same directory from everywhere, and a
     service that restores it activates that directory (`workspace_returns`).
  4. **Strays** — a relative path is taken as well, and leads elsewhere from elsewhere
     (`workspace_strays`).
-/
import GoWorkbench.Proofs.CommandLine.Starting
import GoWorkbench.Proofs.FileSystem.Keeping
import GoWorkbench.Proofs.FileSystem.Spelling
import GoWorkbench.Proofs.Scan.Rules
import GoWorkbench.Proofs.Service.Choosing
import GoWorkbench.Proofs.Service.Remembering

namespace GoWorkbench

open FileSystem

/-! ## Wandering -/

namespace FileSystem

variable {fs fs' : FileSystem} {path : String} {location : Place} {inner : List (String × Entry)}

/-- The working directory is changed, any number of times. -/
inductive Wanders : FileSystem → FileSystem → Prop
  | stay (fs : FileSystem) : Wanders fs fs
  | go {fs between fs' : FileSystem} {path : String} (way : Wanders fs between)
      (entered : between.enter path = .ok fs') : Wanders fs fs'

/-- One change of the working directory changes no entry. -/
theorem entries_of_enter (entered : fs.enter path = .ok fs') : fs'.entries = fs.entries := by
  unfold enter at entered
  split at entered
  · cases entered
  · cases entered
    rfl
  · cases entered

/-- **Wandering** changes no entry. -/
theorem Wanders.entries (way : Wanders fs fs') : fs'.entries = fs.entries := by
  induction way with
  | stay => rfl
  | go _ entered ih => exact (entries_of_enter entered).trans ih

end FileSystem

/-! ## State files -/

theorem isAbsolute_plain {path : String} (absolute : Path.isAbsolute path = true) :
    Path.isAbsolute (Path.plain path) = true :=
  (plain_components path).1.trans absolute

/-- **State files** lie where they lie, whatever the working directory. -/
theorem isAbsolute_statePath {h : Host} {config : Config} {directory statePath : String}
    (rooted : Path.isAbsolute directory = true)
    (placed : config.statePath h directory = .ok statePath) :
    Path.isAbsolute statePath = true := by
  unfold Config.statePath at placed
  rcases expanded : h.expandHome config.stateFile with f | file
  · rw [expanded] at placed
    cases placed
  · rw [expanded] at placed
    obtain rfl := Except.ok.inj placed
    dsimp only
    split
    · assumption
    · rename_i relative
      have some_directory : directory ≠ "" := by
        rintro rfl
        cases rooted
      refine isAbsolute_plain ?_
      rw [Path.join_of_relative (Bool.eq_false_iff.mpr relative), isAbsolute_base some_directory]
      exact rooted

/-! ## Returns -/

namespace FileSystem

/-- The path leads to the directory there, as it is written and in its plain form. -/
def Denotes (fs : FileSystem) (path : String) (location : Place) : Prop :=
  ∃ inner, fs.find path = .ok (location, .directory inner) ∧
    fs.find (Path.plain path) = .ok (location, .directory inner)

variable {fs fs' : FileSystem} {path : String} {location : Place}

theorem Denotes.of_plain {inner : List (String × Entry)} (some_path : path ≠ "")
    (short : path.utf8ByteSize ≤ maxPath)
    (found : fs.find (Path.plain path) = .ok (location, .directory inner)) :
    fs.Denotes path location :=
  ⟨inner, find_of_plain some_path short found, found⟩

/-- A path from the root denotes the same directory from everywhere. -/
theorem Denotes.moved (denotes : fs.Denotes path location) (same : fs'.entries = fs.entries)
    (absolute : Path.isAbsolute path = true) : fs'.Denotes path location := by
  obtain ⟨inner, found, found_plain⟩ := denotes
  refine ⟨inner, ?_, ?_⟩
  · rw [find_moved same absolute, found]
  · rw [find_moved same (isAbsolute_plain absolute), found_plain]

end FileSystem

namespace Service

variable {s after t : Service} {path statePath : String} {before later : FileSystem}
  {active : Option String} {location : Place}

/-- The path denotes one directory when it is made the workspace and from then on, from every
    working directory: to whoever goes by the active workspace, and to a service that restores its
    workspace from the state file. -/
def Returns (path statePath : String) (before after : FileSystem) (active : Option String) :
    Prop :=
  ∃ location, before.Denotes path location ∧
    ∀ later, Wanders after later →
      (∀ root, active = some root → root = path ∧ later.Denotes root location) ∧
      ∀ t : Service, t.statePath = statePath → t.host.files.entries = later.entries →
        ∃ t', t.restore = (.ok (some path), t') ∧ t'.workspace = some path ∧
          t'.host.files.Denotes path location

/-- A path from the root to a directory that is remembered returns, if at most one file has
    changed. -/
theorem returns_of_kept (kept : Kept s after)
    (there : s.host.files.isDirectory (Path.plain path) = true)
    (absolute : Path.isAbsolute path = true) (short : path.utf8ByteSize ≤ maxPath)
    (rooted : Path.isAbsolute s.statePath = true)
    (remembered : (SavedState.load after.host s.statePath).1 = .ok path)
    (goes_by : ∀ root, active = some root → root = path) :
    Returns path s.statePath s.host.files after.host.files active := by
  have some_path : path ≠ "" := by
    rintro rfl
    cases absolute
  obtain ⟨location, inner, found⟩ := find_of_isDirectory there
  obtain ⟨inner', found'⟩ := kept.find_directory found
  have denotes : after.host.files.Denotes path location := .of_plain some_path short found'
  -- An absolute path is looked up from the top, so it denotes the same directory from wherever
  -- the next process starts.
  refine ⟨location, .of_plain some_path short found, fun later way => ⟨?_, ?_⟩⟩
  · intro root is
    obtain rfl := goes_by root is
    exact ⟨rfl, denotes.moved way.entries absolute⟩
  · intro t is same
    have entries := same.trans way.entries
    have read : t.host.files.read s.statePath = after.host.files.read s.statePath := by
      unfold FileSystem.read
      rw [find_moved entries rooted]
    have still : (SavedState.load t.host t.statePath).1 = .ok path := by
      rw [is, SavedState.load_congr read, remembered]
    obtain ⟨inner, there, -⟩ := denotes.moved entries absolute
    obtain ⟨t', restores, now_active, files⟩ := restore_of_load still (isDirectory_of_find there)
    refine ⟨t', restores, now_active, ?_⟩
    rw [files]
    exact denotes.moved entries absolute

/-- So does a path that a switch has returned for. -/
theorem returns_of_setWorkspace {answer : String} {reindex : Bool} {fault : Option Breach}
    (orderly : s.host.files.Orderly) (absolute : Path.isAbsolute path = true)
    (short : path.utf8ByteSize ≤ maxPath) (rooted : Path.isAbsolute s.statePath = true)
    (returns : s.setWorkspace path true reindex fault = (.ok answer, after))
    (remembered : (SavedState.load after.host s.statePath).1 = .ok path)
    (goes_by : ∀ root, active = some root → after.workspace = some root) :
    Returns path s.statePath s.host.files after.host.files active := by
  rcases checked : checkWorkspace s.host path with flaw | ⟨⟩
  · rw [setWorkspace_of_refused checked] at returns
    cases returns
  · have ends := setWorkspace_of_checked orderly checked true reindex fault
    rw [returns] at ends
    obtain ⟨kept, is_active⟩ : Kept s after ∧ after.workspace = some path := by
      cases ends with
      | through chosen => exact ⟨chosen.kept, chosen.active⟩
      | begun _ begun => exact ⟨begun.kept, begun.active⟩
    refine returns_of_kept kept (isDirectory_of_check checked) absolute short rooted remembered
      fun root is => ?_
    have same := goes_by root is
    rw [is_active] at same
    exact (Option.some.inj same).symm

/-- So does it seen from before the reports got their file. -/
theorem Returns.of_touched (touched : Touched before later) (some_path : path ≠ "")
    (short : path.utf8ByteSize ≤ maxPath) {afterwards : FileSystem}
    (returns : Returns path statePath later afterwards active) :
    Returns path statePath before afterwards active := by
  obtain ⟨location, ⟨inner, -, found⟩, rest⟩ := returns
  obtain ⟨inner', found'⟩ := touched.find_directory_before found
  exact ⟨location, .of_plain some_path short found', rest⟩

end Service

namespace CommandLine

open Service

variable {path statePath : String} {before after : FileSystem} {active : Option String}

/-- The directory of a configuration is a link-free form, so its path starts at the root. -/
theorem isAbsolute_of_configure {h : Host} {given directory : String} {config : Config}
    (configures : configure h given = .ok (directory, config)) :
    Path.isAbsolute directory = true := by
  unfold configure at configures
  obtain ⟨expanded, -, configures⟩ := Scan.bind_eq_ok.mp configures
  obtain ⟨place, canonical, configures⟩ := Scan.bind_eq_ok.mp configures
  obtain ⟨config', -, is⟩ := Scan.bind_eq_ok.mp configures
  obtain ⟨rfl, -⟩ := Prod.mk.inj (Except.ok.inj is)
  unfold Host.canonical FileSystem.canonical at canonical
  rcases form : h.files.canonicalNames expanded with e | names
  · rw [form] at canonical
    cases canonical
  · rw [form] at canonical
    rw [← Except.ok.inj canonical]
    exact (isAbsolute_append (by decide) _).trans rfl

/-- A failure is no good end. -/
theorem fail_status (h : Host) (f : Failure) : (fail h f).status ≠ .ok 0 := by
  unfold fail refuse
  split <;> intro is <;> cases is

theorem host_succeed (h : Host) (path : String) (v : Value) : (succeed h path v).host = h := by
  unfold succeed
  split <;> rfl

/-- What goes well with the status 0 has gone well. -/
theorem returns_of_endWith {α : Type} {finish : Host → α → Ended} {answer : Answer α}
    (hosts : ∀ h a, (finish h a).host = h) (fine : (endWith finish answer).status = .ok 0) :
    ∃ a after, answer = (.ok a, after) ∧ (endWith finish answer).host = after.host := by
  obtain ⟨f | a, after⟩ := answer
  · exact absurd fine (fail_status after.host f)
  · exact ⟨a, after, rfl, hosts after.host a⟩

section Command

variable {h : Host} {arguments : List String} {input directory : String} {config : Config}
  {invocation : Invocation} {e : Ended}

/-- What ends well has opened the file for its reports. -/
theorem opens_of_fine (parses : Invocation.parse arguments = .ok invocation)
    (configures : configure h invocation.configDirectory = .ok (directory, config))
    (ends : (start arguments input h).2 = .ended e) (fine : e.status = .ok 0) :
    ∃ host, openLog h config = .ok host := by
  rcases opens : openLog h config with f | host
  · unfold start startBy at ends
    rw [parses] at ends
    dsimp only at ends
    rw [configures] at ends
    dsimp only at ends
    rw [opens] at ends
    cases ends
    cases fine
  · exact ⟨host, rfl⟩

/-- The command `workspace` ends well if its service has made the switch. -/
theorem switches_of_start (orderly : h.files.Orderly)
    (parses : Invocation.parse arguments = .ok invocation)
    (asks : invocation.request = .workspace path)
    (configures : configure h invocation.configDirectory = .ok (directory, config))
    (placed : config.statePath h directory = .ok statePath)
    (ends : (start arguments input h).2 = .ended e) (fine : e.status = .ok 0) :
    ∃ (s after : Service) (answer : String), Touched h.files s.host.files ∧
      s.statePath = statePath ∧ s.setWorkspace path true false = (.ok answer, after) ∧
      e.host = after.host := by
  obtain ⟨host, opens⟩ := opens_of_fine parses configures ends fine
  obtain ⟨same, -⟩ := openLog_ok opens
  have touched := touched_of_openLog orderly opens
  rw [start_configured parses configures opens, asks] at ends
  unfold carryOut at ends
  dsimp only at ends
  rcases created : Service.create host config (some directory) .posix with f | s
  · rw [created] at ends
    cases ends
    cases fine
  · rw [created] at ends
    cases ends
    obtain ⟨answer, after, returns, is_host⟩ :=
      returns_of_endWith (fun _ _ => host_succeed _ _ _) fine
    have placed_s := (eq_of_create created).1
    obtain ⟨rfl, rfl⟩ := create_ok created
    rw [show s.config.statePath s.host directory = s.config.statePath h directory by
      rw [same]; rfl, placed] at placed_s
    exact ⟨s, after, answer, touched, (Except.ok.inj placed_s).symm, returns, is_host⟩

end Command

/-- A service, or the command `workspace`, has taken the path as the workspace, and it is remembered
    in a state file below an absolute directory. -/
inductive Accepted (path statePath : String) : FileSystem → FileSystem → Option String → Prop
  | service {s after : Service} {h : Host} {directory answer : String} {reindex : Bool}
      {fault : Option Breach}
      (rooted : Path.isAbsolute directory = true)
      (placed : s.config.statePath h directory = .ok s.statePath) (here : s.statePath = statePath)
      (returns : s.setWorkspace path true reindex fault = (.ok answer, after))
      (remembered : (SavedState.load after.host statePath).1 = .ok path) :
      Accepted path statePath s.host.files after.host.files after.workspace
  | command {h : Host} {arguments : List String} {input directory : String} {config : Config}
      {invocation : Invocation} {e : Ended} (parses : Invocation.parse arguments = .ok invocation)
      (asks : invocation.request = .workspace path)
      (configures : configure h invocation.configDirectory = .ok (directory, config))
      (placed : config.statePath h directory = .ok statePath)
      (ends : (start arguments input h).2 = .ended e) (fine : e.status = .ok 0)
      (remembered : (SavedState.load e.host statePath).1 = .ok path) :
      Accepted path statePath h.files e.host.files none

/-- **Returns**: a path from the root that has been accepted as the workspace denotes the directory
    that it was accepted for from then on, wherever the working directory is, to a service that goes
    on with it and to one that restores it. -/
theorem workspace_returns (orderly : before.Orderly) (absolute : Path.isAbsolute path = true)
    (short : path.utf8ByteSize ≤ maxPath)
    (accepted : Accepted path statePath before after active) :
    Returns path statePath before after active := by
  cases accepted with
  | service rooted placed here returns remembered =>
    subst here
    exact returns_of_setWorkspace orderly absolute short (isAbsolute_statePath rooted placed)
      returns remembered fun _ is => is
  | command parses asks configures placed ends fine remembered =>
    have rooted := isAbsolute_statePath (isAbsolute_of_configure configures) placed
    have some_path : path ≠ "" := by
      rintro rfl
      cases absolute
    obtain ⟨s, after, answer, touched, rfl, returns, host⟩ :=
      switches_of_start orderly parses asks configures placed ends fine
    rw [host] at remembered ⊢
    have returned : Returns path s.statePath s.host.files after.host.files none :=
      returns_of_setWorkspace (touched.orderly orderly) absolute short rooted returns remembered
        nofun
    exact returned.of_touched touched some_path short

/-- What is chosen with a state file at the root has been accepted. -/
theorem accepted_remembering {files : FileSystem} (orderly : files.Orderly)
    (free : Entry.at? ["editor_config.json"] files.entries = none)
    (checked : checkWorkspace (serving files).host path = .ok ()) :
    Accepted path "/editor_config.json" files (remembering files path) (some path) := by
  have returns := @setWorkspace_of_saved (serving files) path true false none _ _ checked
    (remember_remembering path free)
  have stored := stored_of_write orderly (write_remembering path free)
  have placed : (serving files).config.statePath (serving files).host "/" =
      .ok (serving files).statePath := by
    have expands : (serving files).host.expandHome "editor_config.json" =
        .ok "editor_config.json" := rfl
    unfold Config.statePath
    rw [show (serving files).config.stateFile = "editor_config.json" from rfl, expands]
    rfl
  refine .service rfl placed rfl returns ?_
  rw [SavedState.load_of_read stored.read]

theorem workspace_returns_w : oneFile.Orderly ∧ Path.isAbsolute "/w" = true ∧
    "/w".utf8ByteSize ≤ maxPath ∧
    Accepted "/w" "/editor_config.json" oneFile (remembering oneFile "/w") (some "/w") ∧
    Returns "/w" "/editor_config.json" oneFile (remembering oneFile "/w") (some "/w") := by
  have accepted := accepted_remembering orderly_oneFile rfl checked_w
  exact ⟨orderly_oneFile, rfl, by decide, accepted,
    workspace_returns orderly_oneFile rfl (by decide) accepted⟩

/-! ## Strays -/

/-- Two directories with a directory of one name in each. -/
def rooms : FileSystem :=
  ⟨[("a", .directory [("p", .directory [])]), ("b", .directory [("p", .directory [])])],
    ⟨["a"], 0⟩⟩

theorem orderly_rooms : rooms.Orderly := by
  refine Sound.orderly ⟨?_, linkFree_of_countLinks (by simp [rooms, countLinks]),
    stands_of_dirAt ⟨_, rfl⟩, by decide⟩
  simp only [rooms, Entry.Proper]
  decide

/-- A name is looked up in the working directory. -/
theorem find_p {fs : FileSystem} {room : String} (current : fs.current = ⟨[room], 0⟩)
    (there : Entry.dirAt [room] fs.entries)
    (found : Entry.at? [room, "p"] fs.entries = some (.directory [])) :
    fs.find "p" = .ok (⟨[room, "p"], 0⟩, .directory []) := by
  have walked : fs.walk .look false maxLinks ⟨[room], 0⟩ ["p"] =
      .ok (.object ⟨[room] ++ ["p"], 0⟩ (.directory [])) :=
    walk_names (by decide) there (by decide) (by decide) found (fits_directory _ _)
  exact find_of_walk (by decide) (by decide) (by decide) rfl current rfl walked

/-- **Strays**: a relative path is accepted as well, and what it denotes, to the service and to one
    that restores it, changes with the working directory. -/
theorem workspace_strays :
    Accepted "p" "/editor_config.json" rooms (remembering rooms "p") (some "p") ∧
      ¬ Returns "p" "/editor_config.json" rooms (remembering rooms "p") (some "p") := by
  have found : rooms.find "p" = .ok (⟨["a", "p"], 0⟩, .directory []) :=
    find_p rfl ⟨_, rfl⟩ rfl
  refine ⟨accepted_remembering orderly_rooms rfl (checkWorkspace_of_find (by decide) found), ?_⟩
  rintro ⟨location, ⟨inner, denotes, -⟩, returns⟩
  rw [found] at denotes
  cases denotes
  have leads : LeadsTo "/b" ["b"] := ⟨rfl, rfl, by decide⟩
  have entered : (remembering rooms "p").enter "/b" =
      .ok { remembering rooms "p" with current := ⟨["b"], 0⟩ } := by
    unfold enter
    rw [leads.find (leads.passable (by decide) (by decide))
      (rfl : Entry.at? ["b"] (remembering rooms "p").entries = some (.directory _))
      (fits_directory _ _)]
  obtain ⟨still, -⟩ := returns _ (.go (.stay _) entered)
  obtain ⟨-, inner, denotes, -⟩ := still "p" rfl
  rw [find_p rfl ⟨_, rfl⟩ rfl] at denotes
  have same := congrArg Place.names (Prod.mk.inj (Except.ok.inj denotes)).1
  exact absurd same (by decide)

end CommandLine

end GoWorkbench
