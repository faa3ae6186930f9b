/-
  Remembering a workspace is a favour, not a promise.

  A service goes on without a state file that it cannot write or read.  What stands in its way are
  the two things that are no failures of the file: a path that no operating system takes, and a text
  that JSON does not hold.

  1. **Loading** — how loading a state ends (`load_ends`).
  2. **Persistence** — so the file may be as it likes, and only a NUL in its path or half of a
     surrogate pair in the workspace is a failure (`persistence_ends`).
  3. **Escapes** — these two are no answers, and a configuration may have such a path
     (`persistence_breaks_off`).
-/
import GoWorkbench.Proofs.Service.Choosing
import GoWorkbench.Proofs.Service.Remembering

namespace GoWorkbench

open FileSystem Text

namespace SavedState

variable {h : Host} {path : String} {text : CodePoints}

/-! ## Loading -/

/-- How loading a workspace ends: with the one whose state the file is, or with none if there is no
    file or it is no state, or there is no file with such a path.  No file has changed. -/
inductive Loads (h : Host) (path : String) : Except Failure String × Host → Prop
  | remembered {data : List UInt8} {workspace : String} (read : h.files.read path = .ok data)
      (is : IsState data workspace) : Loads h path (.ok workspace, h)
  | missing (none : h.files.read path = .error .missing) : Loads h path (.ok "", h)
  | ignored (none : ∀ data workspace, h.files.read path = .ok data → ¬ IsState data workspace) :
      Loads h path (.ok "", h.report .debug source s!"Ignoring unreadable state file {path}")
  | nul (given : '\x00' ∈ path.toList) : Loads h path (.error (.refused .nul path), h)

/-- **Loading** ends so. -/
theorem load_ends (h : Host) (path : String) : Loads h path (load h path) := by
  unfold load
  dsimp only
  split
  · rename_i refused
    by_cases nul : '\x00' ∈ path.toList
    · exact .nul nul
    · exact absurd refused (read_ne_nul nul)
  · rename_i none
    exact .missing none
  · rename_i unreadable
    refine .ignored fun data workspace read => ?_
    rw [unreadable] at read
    cases read
  · rename_i data read
    split
    · rename_i workspace is
      exact .remembered read (ofBytes_eq_some.mp is)
    · rename_i none
      refine .ignored fun other workspace also is => ?_
      obtain rfl := Except.ok.inj (read.symm.trans also)
      rw [ofBytes_eq_some.mpr is] at none
      cases none

/-! ## Persistence -/

/-- **Persistence**: whatever the files are, a workspace is saved or not, and one is loaded, or none
    if the file cannot be read or is no state; unless the path has a NUL, or the workspace has half
    of a surrogate pair, or something else than the system breaks off the writing. -/
theorem persistence_ends (orderly : h.files.Orderly) (path : String) (text : CodePoints)
    (fault : Option Breach) :
    Saves h path text fault (save h path text fault) ∧ Loads h path (load h path) :=
  ⟨save_ends orderly path text fault, load_ends h path⟩

open Service (serving oneFile oddlyNamed orderly_oddlyNamed unsavable)

/-- A state file with a byte that is no UTF-8 remembers nothing, and can be written over. -/
theorem persistence_ends_over_bytes : oddlyNamed.Orderly ∧
    (save (serving oddlyNamed).host "/editor_config.json" (.ofString "/w")).1 = .ok true ∧
    (load (serving oddlyNamed).host "/editor_config.json").1 = .ok "" := by
  have leads : LeadsTo "/editor_config.json" ["editor_config.json"] := ⟨rfl, rfl, by decide⟩
  have passable := leads.passable (by decide) (by decide)
  have found : Entry.at? ["editor_config.json"] oddlyNamed.entries = some (.file [255] false) := rfl
  have writable : oddlyNamed.Writable "/editor_config.json" :=
    ⟨[], _, leads.write passable (by decide) found []⟩
  have read : oddlyNamed.read "/editor_config.json" = .ok [255] :=
    leads.read passable rfl (by decide)
  obtain ⟨saves, loads⟩ := persistence_ends (h := (serving oddlyNamed).host) orderly_oddlyNamed
    "/editor_config.json" (.ofString "/w") none
  refine ⟨orderly_oddlyNamed, ?_, ?_⟩
  · generalize save _ _ _ = answer at saves ⊢
    cases saves with
    | stored => rfl
    | refused unwritable => exact absurd writable unwritable
    | halved half => exact absurd half (by decide)
    | nul given => exact absurd given (by decide)
  · generalize load _ _ = answer at loads ⊢
    cases loads with
    | remembered also is =>
      obtain rfl := Except.ok.inj (read.symm.trans also)
      obtain ⟨_, _, decoded, -⟩ := is
      cases decoded
    | missing => rfl
    | ignored => rfl
    | nul given => exact absurd given (by decide)

/-! ## Escapes -/

/-- **Escapes**: a configuration is taken whose state file has a NUL in its name, and neither can a
    workspace be saved there nor one be loaded.  Nor can one be saved that has half of a surrogate
    pair, whatever the file is. -/
theorem persistence_breaks_off :
    Config.check (.table [("state_file", .text "a\x00b")]) = .ok unsavable ∧
    unsavable.statePath (serving oneFile).host "/w" = .ok "/w/a\x00b" ∧
    save (serving oneFile).host "/w/a\x00b" (.ofString "/w") =
      (.error (.refused .nul "/w/a\x00b"), (serving oneFile).host) ∧
    load (serving oneFile).host "/w/a\x00b" =
      (.error (.refused .nul "/w/a\x00b"), (serving oneFile).host) ∧
    save (serving oneFile).host "/editor_config.json" ⟨[47, 0xD800]⟩ =
      (.error .halfCharacter, (serving oneFile).host) := by
  have nul : '\x00' ∈ "/w/a\x00b".toList := by decide
  refine ⟨rfl, rfl, save_of_nul nul none, ?_, rfl⟩
  unfold load
  rw [read_of_nul nul]

end SavedState

end GoWorkbench
