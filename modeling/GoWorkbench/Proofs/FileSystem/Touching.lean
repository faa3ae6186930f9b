/-
  Files that are opened to add to them.

  To open a file so is to make an empty one where there is none, and to change nothing where there is
  one.  Either way, whoever has seen a file before sees the same afterwards.

  1. **Touching** — a file that has been made is where nothing was (`touched_of_touch`).
  2. **What stays** — every file that could be read is read as before (`Touched.read`), and every
     directory is where it was before (`Touched.find_directory_before`).
-/
import GoWorkbench.Proofs.FileSystem.Keeping
import GoWorkbench.Proofs.FileSystem.Reading
import GoWorkbench.Proofs.FileSystem.Straight

namespace GoWorkbench.FileSystem

open Entry

variable {fs fs' : FileSystem} {path : String} {data : List UInt8} {location : Place}
  {inner : List (String × Entry)}

/-! ## Touching -/

/-- Nothing has changed, or a file has been made where nothing was. -/
inductive Touched (fs : FileSystem) : FileSystem → Prop
  | same : Touched fs fs
  | made {fs' : FileSystem} {spot : List String} (free : Entry.at? spot fs.entries = none)
      (same : SameBut spot fs fs') (orderly : fs'.Orderly) : Touched fs fs'

/-- Something that is no directory is found where a file is. -/
theorem isRegular_of_reach {executable : Bool}
    (reaches : fs.reach .look path = .ok (.object location (.file data executable))) :
    fs.isRegular path = true := by
  unfold isRegular existsAt isDirectory FileSystem.find
  rw [reaches]
  rfl

/-- **Touching**: a file that is opened to add to it was there, or nothing was at its place. -/
theorem touched_of_touch (orderly : fs.Orderly) (h : fs.touch path = .ok fs') : Touched fs fs' := by
  unfold touch at h
  split at h
  · cases h
    exact .same
  · rename_i none_there
    obtain ⟨orderly', spot, executable, found, same⟩ := stored_of_write orderly h
    have reaches := reach_of_find found
    have there := orderly'.file_there reaches
    refine @Touched.made _ _ spot ?_ same orderly'
    cases before : Entry.at? spot fs.entries with
    | none => rfl
    | some entry =>
      cases entry with
      | directory inner =>
        obtain ⟨inner', is⟩ := (same.dirs spot).mpr ⟨inner, before⟩
        rw [there] at is
        cases is
      | link target =>
        refine absurd ?_ (same.no_link target)
        unfold leafAt
        rw [before]
      | file data executable =>
        -- the path has led to it before
        exact absurd (isRegular_of_reach (reach_overwritten same.symm before reaches rfl)) none_there

namespace Touched

/-! ## What stays -/

theorem orderly (touched : Touched fs fs') (orderly : fs.Orderly) : fs'.Orderly := by
  cases touched with
  | same => exact orderly
  | made _ _ orderly' => exact orderly'

/-- **What stays**: a file is read as before. -/
theorem read (touched : Touched fs fs') (orderly : fs.Orderly) (h : fs.read path = .ok data) :
    fs'.read path = .ok data := by
  cases touched with
  | same => exact h
  | made free same _ =>
    obtain ⟨location, executable, reaches⟩ := reach_of_read h
    have alike := reach_alike same .look path
    rw [reaches] at alike
    unfold FileSystem.read FileSystem.find
    generalize fs'.reach .look path = ending at alike
    cases alike with
    | same => rfl
    | atSpot at_spot _ =>
      cases at_spot with
      | file is =>
        have there := orderly.file_there reaches
        rw [is, free] at there
        cases there

/-- A directory is where it was before. -/
theorem find_directory_before (touched : Touched fs fs')
    (found : fs'.find path = .ok (location, .directory inner)) :
    ∃ inner', fs.find path = .ok (location, .directory inner') := by
  cases touched with
  | same => exact ⟨inner, found⟩
  | made _ same _ => exact find_directory_alike same.symm found

theorem straight (touched : Touched fs fs') (straight : fs.Straight path) : fs'.Straight path := by
  cases touched with
  | same => exact straight
  | made _ same _ =>
    obtain ⟨nonempty, no_nul, short, no_slash, no_dot, retraces, working⟩ := straight
    rw [← same.current] at retraces working
    exact ⟨nonempty, no_nul, short, no_slash, no_dot, retraces.alike same, working⟩

end Touched

end GoWorkbench.FileSystem
