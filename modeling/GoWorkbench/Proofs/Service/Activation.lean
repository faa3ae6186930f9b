/-
  Activating a workspace.

  A workspace is activated by switching to it, or by restoring the one that is remembered.  Both
  leave the index alone; the rebuild comes after them (`setWorkspace_reindex`), so it can be looked
  at on its own.

  1. **Switching** — a switch goes well where a directory is found.
  2. **Activation** — what has been activated is active, and is a path without a NUL.
-/
import GoWorkbench.Proofs.FileSystem.Spots
import GoWorkbench.Service.Basic

namespace GoWorkbench.Service

open FileSystem

variable {s before after : Service} {path root : String} {fault : Option Breach}

/-! ## Switching -/

/-- A rebuild that is scheduled at a switch is nothing but a rebuild after it. -/
theorem setWorkspace_reindex (s : Service) (path : String) (persist : Bool)
    (fault : Option Breach) :
    s.setWorkspace path persist true fault =
      match s.setWorkspace path persist false fault with
      | (.ok answer, after) => (.ok answer, after.schedule path)
      | (.error e, after) => (.error e, after) := by
  unfold setWorkspace
  split
  · rfl
  · dsimp only
    split <;> rfl

/-- A switch activates the path and leaves the index alone. -/
theorem setWorkspace_ok {answer : String} {persist : Bool}
    (h : s.setWorkspace path persist false fault = (.ok answer, after)) :
    after.workspace = some path ∧ after.index = s.index := by
  unfold setWorkspace at h
  split at h
  · cases h
  · dsimp only at h
    split at h
    · cases h
    · cases h; exact ⟨rfl, rfl⟩

/-- A path where a directory is found can be a workspace. -/
theorem checkWorkspace_of_find {h : Host} {location : Place} {inner : List (String × Entry)}
    (some_path : path ≠ "")
    (found : h.files.find (Path.plain path) = .ok (location, .directory inner)) :
    checkWorkspace h path = .ok () := by
  unfold checkWorkspace
  dsimp only
  rw [if_neg fun is => some_path (String.isEmpty_iff.mp is), found]

/-- A switch to it goes well. -/
theorem setWorkspace_of_find {location : Place} {inner : List (String × Entry)}
    (some_path : path ≠ "")
    (found : s.host.files.find (Path.plain path) = .ok (location, .directory inner)) :
    s.setWorkspace path false false = (.ok path, { s with workspace := some path }) := by
  unfold setWorkspace
  rw [checkWorkspace_of_find some_path found]
  rfl

/-- Where a switch goes well, something is found. -/
theorem find_of_setWorkspace {persist reindex : Bool}
    (h : s.setWorkspace path persist reindex fault = (.ok root, after)) :
    ∃ location inner, s.host.files.find (Path.plain path) = .ok (location, .directory inner) := by
  unfold setWorkspace at h
  split at h
  · cases h
  · rename_i check
    unfold checkWorkspace at check
    split at check
    · cases check
    · dsimp only at check
      split at check
      · rename_i location inner hfind
        exact ⟨location, inner, hfind⟩
      · cases check
      · split at check <;> cases check

/-! ## Activation -/

/-- The root has been activated, and no rebuild of it has been called yet. -/
inductive Opens (root : String) (after : Service) : Prop
  | switched (before : Service) (persist : Bool) (fault : Option Breach)
      (returns : before.setWorkspace root persist false fault = (.ok root, after))
  | restored (before : Service) (returns : before.restore = (.ok (some root), after))

/-- What has been activated is active. -/
theorem Opens.active (h : Opens root after) : after.workspace = some root := by
  cases h with
  | switched before persist fault returns => exact (setWorkspace_ok returns).1
  | restored before returns =>
    unfold restore at returns
    dsimp only at returns
    split at returns
    · cases returns
    · split at returns
      · cases returns
      · cases returns; rfl

theorem find_of_isDirectory {fs : FileSystem} (h : fs.isDirectory path = true) :
    ∃ location inner, fs.find path = .ok (location, .directory inner) := by
  unfold isDirectory at h
  split at h
  · rename_i location inner hfind
    exact ⟨location, inner, hfind⟩
  · cases h

theorem isDirectory_of_find {fs : FileSystem} {location : Place} {inner : List (String × Entry)}
    (found : fs.find path = .ok (location, .directory inner)) : fs.isDirectory path = true := by
  unfold isDirectory
  rw [found]

/-- What has been activated has no NUL. -/
theorem Opens.no_nul (h : Opens root after) (sound : after.host.files.Sound) :
    '\x00' ∉ root.toList := by
  cases h with
  | switched before persist fault returns =>
    obtain ⟨location, inner, hfind⟩ := find_of_setWorkspace returns
    exact nul_not_mem_of_plain (no_nul_of_find hfind)
  | restored before returns =>
    unfold restore at returns
    generalize SavedState.load before.host before.statePath = loaded at returns
    obtain ⟨remembered, host⟩ := loaded
    dsimp only at returns
    split at returns
    · cases returns
    · split at returns
      · cases returns
      · rename_i remembered _ candidate hcandidate
        cases returns
        have names : ∀ n ∈ host.files.current.names, Entry.IsName n := sound.names
        split at hcandidate
        · rename_i hdirectory
          obtain rfl := Option.some.inj hcandidate
          rw [Bool.and_eq_true] at hdirectory
          obtain ⟨location, inner, hfind⟩ := find_of_isDirectory hdirectory.2
          exact no_nul_of_find hfind
        · rcases hworking : host.files.workingDirectory with t | here
          · rw [hworking] at hcandidate; cases hcandidate
          · rw [hworking] at hcandidate
            rw [← Option.some.inj hcandidate]
            exact no_nul_of_workingDirectory names hworking

end GoWorkbench.Service
