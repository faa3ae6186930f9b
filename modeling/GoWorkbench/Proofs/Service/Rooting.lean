/-
  What becomes the workspace.

  A workspace is switched to, or restored from what is remembered.  Its path is then passed to the
  operating system again and again, so it must be one that a system takes at all.

  1. **Switching** — a path can be a workspace just if it names a directory
     (`checkWorkspace_ok_iff`), so what has been switched to has no NUL (`Chosen.no_nul`).
  2. **Restoring** — it fails just for a NUL in the path of the state file, and what has been
     restored has none (`restore_cases`).
-/
import GoWorkbench.Proofs.Service.Choosing
import GoWorkbench.Proofs.Service.Remembering

namespace GoWorkbench.Service

open FileSystem

variable {s after : Service} {path : String} {persist reindex : Bool}

/-! ## Switching -/

/-- **Switching**: a path can be a workspace just if it names a directory. -/
theorem checkWorkspace_ok_iff {h : Host} : checkWorkspace h path = .ok () ↔
    path ≠ "" ∧ h.files.isDirectory (Path.plain path) = true := by
  constructor
  · intro checked
    refine ⟨?_, isDirectory_of_check checked⟩
    rintro rfl
    cases checked
  · rintro ⟨some_path, there⟩
    obtain ⟨location, inner, found⟩ := find_of_isDirectory there
    exact checkWorkspace_of_find some_path found

/-- What has been switched to has no NUL. -/
theorem Chosen.no_nul (chosen : Chosen s path persist reindex after) : '\x00' ∉ path.toList := by
  obtain ⟨location, inner, found⟩ := find_of_isDirectory chosen.directory
  exact nul_not_mem_of_plain (no_nul_of_find found)

/-! ## Restoring -/

/-- **Restoring** fails just for the path of the state file; and what has been restored has no
    NUL. -/
theorem restore_cases (orderly : s.host.files.Orderly) :
    ('\x00' ∈ s.statePath.toList ∧
      ∃ after, s.restore = (.error (.refused .nul s.statePath), after)) ∨
    '\x00' ∉ s.statePath.toList ∧ ∃ root after, s.restore = (.ok root, after) ∧
      after.host.files = s.host.files ∧ (root = none → after.workspace = s.workspace) ∧
      ∀ top, root = some top → after.workspace = some top ∧ '\x00' ∉ top.toList := by
  have files := (SavedState.load_snd s.host s.statePath).1
  have loaded := SavedState.load_fst s.host s.statePath
  generalize loads : SavedState.load s.host s.statePath = ending at files loaded
  obtain ⟨remembered, host⟩ := ending
  dsimp only at files loaded
  obtain ⟨nul, rfl⟩ | ⟨no_nul, remembered, rfl⟩ := loaded
  · refine Or.inl ⟨nul, { s with host }, ?_⟩
    unfold restore
    rw [loads]
  · generalize is : (if s.host.files.isDirectory remembered then some remembered
      else s.host.files.workingDirectory.toOption) = root
    obtain ⟨active, same, -⟩ := activated_keeps s host root
    refine Or.inr ⟨no_nul, root, _, restore_eq loads is.symm, same.trans files, ?_, ?_⟩
    · rintro rfl
      exact active
    · rintro top rfl
      refine ⟨active, ?_⟩
      obtain there | working := restored_cases is
      · obtain ⟨location, inner, found⟩ := find_of_isDirectory there
        exact no_nul_of_find found
      · exact no_nul_of_workingDirectory orderly.names working

end GoWorkbench.Service
