/-
  Switching to another workspace is all or nothing.

  The workspace is made active before it is remembered and before its index is scheduled, so a
  switch that broke off there would leave half of itself behind.

  1. **Choices** — what a switch that has gone through has done (`Chosen`), and how else a switch
     can end (`setWorkspace_ends`).
  2. **All or nothing** — a switch is refused with everything as it was, or it has gone through, if
     the path is a text and that of the state file can be passed to an operating system
     (`setWorkspace_whole`).  Only where the writing of the state file is broken off is that left
     with a beginning of the state.
  3. **Half a switch** — a configuration is taken whose state file has a NUL in its name, and a
     switch that is to be remembered there breaks off with the workspace active already
     (`setWorkspace_breaks_off`).
-/
import GoWorkbench.Proofs.FileSystem.Keeping
import GoWorkbench.Proofs.SavedState
import GoWorkbench.Proofs.Service.Activation
import GoWorkbench.Proofs.Service.Saving

namespace GoWorkbench.Service

open FileSystem Text

variable {s after : Service} {path root : String} {persist reindex : Bool}
  {fault : Option Breach}

/-! ## Choices -/

/-- The switch has gone through: the path names a directory and is active, nothing but a rebuild of
    it has happened to the index, and the state file remembers it or no file has changed. -/
structure Chosen (s : Service) (path : String) (persist reindex : Bool) (after : Service) :
    Prop where
  directory : s.host.files.isDirectory (Path.plain path) = true
  active : after.workspace = some path
  indexed : ∃ ready : Service, ready.workspace = some path ∧ ready.index = s.index ∧
    ready.host.files = after.host.files ∧
    after = if reindex then ready.schedule path else ready
  forgotten : persist = false → after.host.files = s.host.files
  remembered : persist = true → after.host.files = s.host.files ∨
    Stored s.statePath (SavedState.toBytes path) s.host.files after.host.files ∧
      (SavedState.load after.host s.statePath).1 = .ok path

/-- The active workspace is another one, and the state file has a beginning of the state that
    remembers it, because the writing has been broken off. -/
structure Begun (s : Service) (path : String) (breach : Breach) (after : Service) : Prop where
  active : after.workspace = some path
  begun : Stored s.statePath ((SavedState.toBytes path).take breach.written) s.host.files
    after.host.files

/-- No file has changed, or only one. -/
def Kept (s after : Service) : Prop :=
  after.host.files = s.host.files ∨ ∃ spot, SameBut spot s.host.files after.host.files

theorem Chosen.kept (chosen : Chosen s path persist reindex after) : Kept s after := by
  cases persist with
  | false => exact Or.inl (chosen.forgotten rfl)
  | true =>
    refine (chosen.remembered rfl).imp id fun ⟨stored, _⟩ => ?_
    obtain ⟨spot, executable, -, same⟩ := stored.found
    exact ⟨spot, same⟩

theorem Begun.kept {breach : Breach} (begun : Begun s path breach after) : Kept s after := by
  obtain ⟨spot, executable, -, same⟩ := begun.begun.found
  exact Or.inr ⟨spot, same⟩

/-- A path to a directory leads there after the switch too. -/
theorem Kept.find_directory {other : String} {location : Place} {inner : List (String × Entry)}
    (kept : Kept s after) (found : s.host.files.find other = .ok (location, .directory inner)) :
    ∃ inner', after.host.files.find other = .ok (location, .directory inner') := by
  rcases kept with same | ⟨spot, same⟩
  · rw [same]
    exact ⟨inner, found⟩
  · exact find_directory_alike same found

theorem isDirectory_of_check {h : Host} (checked : checkWorkspace h path = .ok ()) :
    h.files.isDirectory (Path.plain path) = true := by
  unfold checkWorkspace at checked
  split at checked
  · cases checked
  · dsimp only at checked
    unfold isDirectory
    split at checked
    · rename_i found
      rw [found]
    · cases checked
    · split at checked <;> cases checked

/-- The path has been made active, and the surroundings are those after the state was saved. -/
def ready (s : Service) (path : String) (host : Host) : Service :=
  { s with workspace := some path, host }

/-- What a switch comes to once its path has been checked and the state saved. -/
theorem setWorkspace_of_saved {host : Host} {written : Bool}
    (checked : checkWorkspace s.host path = .ok ())
    (saved : (if persist then s.remember path fault else (.ok true, s.host)) =
      (.ok written, host)) :
    s.setWorkspace path persist reindex fault =
      (.ok path, if reindex then (s.ready path host).schedule path else s.ready path host) := by
  unfold setWorkspace
  rw [checked]
  dsimp only
  rw [show Service.remember { s with workspace := some path } path fault = s.remember path fault
    from rfl, saved]
  rfl

/-- And what it comes to once saving the state has failed. -/
theorem setWorkspace_of_broken {host : Host} {failure : Failure}
    (checked : checkWorkspace s.host path = .ok ())
    (broken : s.remember path fault = (.error failure, host)) :
    s.setWorkspace path true reindex fault = (.error failure, s.ready path host) := by
  unfold setWorkspace
  rw [checked]
  dsimp only
  rw [if_pos rfl, show Service.remember { s with workspace := some path } path fault =
    s.remember path fault from rfl, broken]
  rfl

/-- A path that is a text is remembered by saving a state. -/
theorem remember_of_text (text : s.host.isText path = true) (fault : Option Breach) :
    s.remember path fault = SavedState.save s.host s.statePath (.ofString path) fault :=
  if_pos text

/-- Of any other there is no state. -/
theorem remember_of_garbled (garbled : s.host.isText path = false) (fault : Option Breach) :
    s.remember path fault = (.error .halfCharacter, s.host) :=
  if_neg (by rw [garbled]; exact Bool.false_ne_true)

/-- A switch is refused for its path, and everything is as it was. -/
theorem setWorkspace_of_refused {breach : Option Breach} {fault : WorkspaceFault}
    (refused : checkWorkspace s.host path = .error fault) :
    s.setWorkspace path persist reindex breach = (.error (.workspace fault), s) := by
  unfold setWorkspace
  rw [refused]

/-- A rebuild changes no file. -/
theorem files_of_ready {host : Host} : (if reindex then (s.ready path host).schedule path
    else s.ready path host).host.files = host.files := by
  split
  · exact schedule_files _ path
  · rfl

/-- A switch has gone through, if the state has been saved properly. -/
theorem chosen_of_saved {host : Host} (checked : checkWorkspace s.host path = .ok ())
    (forgotten : persist = false → host.files = s.host.files)
    (remembered : persist = true → host.files = s.host.files ∨
      Stored s.statePath (SavedState.toBytes path) s.host.files host.files) :
    Chosen s path persist reindex
      (if reindex then (s.ready path host).schedule path else s.ready path host) := by
  have files : (if reindex then (s.ready path host).schedule path
      else s.ready path host).host.files = host.files := files_of_ready
  refine ⟨isDirectory_of_check checked, ?_, ⟨s.ready path host, rfl, rfl, files.symm, rfl⟩, ?_, ?_⟩
  · split <;> rfl
  · rw [files]
    exact forgotten
  · intro wanted
    refine (remembered wanted).imp files.trans fun stored => ?_
    rw [files]
    refine ⟨stored, ?_⟩
    rw [SavedState.load_of_read (by rw [files]; exact stored.read)]

/-- How a switch to a path that has been checked ends, with what breaks off the writing of the state
    file: it has gone through, or it has but for the state file, or remembering it has failed once
    the workspace was active. -/
inductive Switches (s : Service) (path : String) (persist reindex : Bool) :
    Option Breach → Answer String → Prop
  | through {fault : Option Breach} {after : Service}
      (chosen : Chosen s path persist reindex after) :
      Switches s path persist reindex fault (.ok path, after)
  | begun {breach : Breach} {after : Service} {answer : Except Failure String}
      (wanted : persist = true) (begun : Begun s path breach after)
      (answers : answer = .ok path ∨ answer = .error (.interrupted breach.how)) :
      Switches s path persist reindex (some breach) (answer, after)
  | garbled {fault : Option Breach} (wanted : persist = true)
      (garbled : s.host.isText path = false) :
      Switches s path persist reindex fault (.error .halfCharacter, s.ready path s.host)
  | nul {fault : Option Breach} (wanted : persist = true) (nul : '\x00' ∈ s.statePath.toList) :
      Switches s path persist reindex fault
        (.error (.refused .nul s.statePath), s.ready path s.host)

/-- A switch to a path that has been checked ends so. -/
theorem setWorkspace_of_checked (orderly : s.host.files.Orderly)
    (checked : checkWorkspace s.host path = .ok ()) (persist reindex : Bool)
    (fault : Option Breach) :
    Switches s path persist reindex fault (s.setWorkspace path persist reindex fault) := by
  cases persist with
  | false =>
    rw [@setWorkspace_of_saved _ _ false _ _ _ _ checked rfl]
    exact .through (chosen_of_saved checked (fun _ => rfl) nofun)
  | true =>
    rcases text : s.host.isText path with _ | _
    · rw [setWorkspace_of_broken checked (remember_of_garbled text fault)]
      exact .garbled rfl text
    · have ends := SavedState.save_ends orderly s.statePath (.ofString path) fault
      have remembers := remember_of_text text fault
      have is := toString_ofString path
      -- From here on only the ways a save can end count, not how it comes to them.
      generalize SavedState.save s.host s.statePath (.ofString path) fault = answer
        at ends remembers
      cases ends with
      | @stored files _ stored =>
        rw [is] at stored
        rw [@setWorkspace_of_saved _ _ true _ _ _ _ checked remembers]
        exact .through (chosen_of_saved checked nofun fun _ => Or.inr stored)
      | refused =>
        rw [@setWorkspace_of_saved _ _ true _ _ _ _ checked remembers]
        exact .through (chosen_of_saved checked nofun fun _ => Or.inl rfl)
      | brokenOff how begun =>
        rw [is] at begun
        rw [@setWorkspace_of_saved _ _ true _ _ _ _ checked remembers]
        refine .begun rfl ⟨?_, ?_⟩ (Or.inl rfl)
        · split <;> rfl
        · rw [files_of_ready]
          exact begun
      | interrupted how begun =>
        rw [is] at begun
        rw [setWorkspace_of_broken checked remembers]
        exact .begun rfl ⟨rfl, begun⟩ (Or.inr rfl)
      | halved half => exact absurd half (SavedState.not_halved path)
      | nul given =>
        rw [setWorkspace_of_broken checked remembers]
        exact .nul rfl given

/-- A switch is refused for its path, and everything is as it was; or it ends as one to a path that
    has been checked. -/
theorem setWorkspace_ends (orderly : s.host.files.Orderly) (path : String)
    (persist reindex : Bool) (fault : Option Breach) :
    (∃ flaw, s.setWorkspace path persist reindex fault = (.error (.workspace flaw), s)) ∨
      Switches s path persist reindex fault (s.setWorkspace path persist reindex fault) := by
  rcases checked : checkWorkspace s.host path with flaw | ⟨⟩
  · exact Or.inl ⟨flaw, setWorkspace_of_refused checked⟩
  · exact Or.inr (setWorkspace_of_checked orderly checked persist reindex fault)

/-! ## All or nothing -/

/-- **All or nothing**: a switch is refused for its path, and everything is as it was, or it returns
    the path and has gone through.  Only if the writing of the state file is broken off does that
    have a beginning of the state. -/
theorem setWorkspace_whole (orderly : s.host.files.Orderly)
    (plain : persist = true → '\x00' ∉ s.statePath.toList)
    (text : persist = true → s.host.isText path = true) (fault : Option Breach) :
    (∃ flaw, s.setWorkspace path persist reindex fault = (.error (.workspace flaw), s)) ∨
      (∃ after, s.setWorkspace path persist reindex fault = (.ok path, after) ∧
        Chosen s path persist reindex after) ∨
      persist = true ∧ ∃ breach, fault = some breach ∧
        Begun s path breach (s.setWorkspace path persist reindex fault).2 := by
  obtain refused | ends := setWorkspace_ends orderly path persist reindex fault
  · exact Or.inl refused
  · refine Or.inr ?_
    generalize s.setWorkspace path persist reindex fault = answer at ends ⊢
    cases ends with
    | through chosen => exact Or.inl ⟨_, rfl, chosen⟩
    | begun wanted begun => exact Or.inr ⟨wanted, _, rfl, begun⟩
    | garbled wanted garbled =>
      rw [text wanted] at garbled
      cases garbled
    | nul wanted nul => exact absurd nul (plain wanted)

theorem checked_w : checkWorkspace (serving oneFile).host "/w" = .ok () := by
  have leads : LeadsTo "/w" ["w"] := ⟨rfl, rfl, by decide⟩
  exact checkWorkspace_of_find (by decide) (leads.find (leads.passable (by decide) (by decide))
    (rfl : Entry.at? ["w"] oneFile.entries = some (.directory _)) (fits_directory _ _))

/-- The files once a workspace has been remembered at the root. -/
def remembering (files : FileSystem) (path : String) : FileSystem :=
  files.put ["editor_config.json"] (.file (SavedState.toBytes path) false)

theorem write_remembering {files : FileSystem} (path : String)
    (free : Entry.at? ["editor_config.json"] files.entries = none) :
    files.write "/editor_config.json" (SavedState.toBytes path) =
      .ok (remembering files path) := by
  have leads : LeadsTo "/editor_config.json" ([] ++ ["editor_config.json"]) :=
    ⟨rfl, rfl, by decide⟩
  exact leads.write_vacant (leads.passable (by decide) (by decide)) (by decide) Entry.dirAt_nil free
    (SavedState.toBytes path)

theorem remember_remembering {files : FileSystem} (path : String)
    (free : Entry.at? ["editor_config.json"] files.entries = none) :
    (serving files).remember path none =
      (.ok true, { (serving files).host with files := remembering files path }) := by
  have text : (serving files).host.isText path = true := List.all_eq_true.mpr fun _ _ => rfl
  have written : (serving files).host.write (serving files).statePath (SavedState.toBytes path) =
      (.ok (), { (serving files).host with files := remembering files path }) :=
    Host.write_of_ok (write_remembering path free)
  rw [remember_of_text text, SavedState.save_ofString, written]

theorem setWorkspace_whole_saved : oneFile.Orderly ∧
    '\x00' ∉ (serving oneFile).statePath.toList ∧ (serving oneFile).host.isText "/w" = true ∧
    ∃ after, (serving oneFile).setWorkspace "/w" true true = (.ok "/w", after) ∧
      Chosen (serving oneFile) "/w" true true after := by
  have plain : '\x00' ∉ (serving oneFile).statePath.toList := by decide
  have text : (serving oneFile).host.isText "/w" = true := by decide
  refine ⟨orderly_oneFile, plain, text, ?_⟩
  have goes := @setWorkspace_of_saved (serving oneFile) "/w" true true none _ _ checked_w
    (remember_remembering "/w" rfl)
  obtain ⟨flaw, refused⟩ | through | ⟨-, breach, broken, -⟩ :=
    @setWorkspace_whole (serving oneFile) "/w" true true orderly_oneFile (fun _ => plain)
      (fun _ => text) none
  · rw [goes] at refused
    cases refused
  · exact through
  · cases broken

/-! ## Half a switch -/

/-- A configuration with a NUL in the name of the state file. -/
def unsavable : Config := { stateFile := "a\x00b" }

/-- What is started with it in `/w`. -/
def servingUnsavable : Service :=
  { serving oneFile with config := unsavable, statePath := "/w/a\x00b", workspace := none }

/-- **Half a switch**: the configuration is taken, and a switch that is to be remembered fails for
    the path of the state file, but the workspace has become another one and no rebuild of it has
    been scheduled. -/
theorem setWorkspace_breaks_off :
    Config.check (.table [("state_file", .text "a\x00b")]) = .ok unsavable ∧
    create (serving oneFile).host unsavable (some "/w") .posix = .ok servingUnsavable ∧
    servingUnsavable.workspace = none ∧
    servingUnsavable.setWorkspace "/w" true true =
      (.error (.refused .nul "/w/a\x00b"), { servingUnsavable with workspace := some "/w" }) := by
  have broken : servingUnsavable.remember "/w" none =
      (.error (.refused .nul "/w/a\x00b"), (serving oneFile).host) :=
    (remember_of_text (by decide) none).trans (SavedState.save_of_nul (by decide) none)
  exact ⟨rfl, rfl, rfl, setWorkspace_of_broken (s := servingUnsavable) checked_w broken⟩

end GoWorkbench.Service
