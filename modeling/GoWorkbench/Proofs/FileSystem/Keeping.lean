/-
  What becomes of files while others are written, made and removed.

  1. **Other files** — a path that leads to a file leads there still when another file has changed
     (`reach_spared`), and a path to a directory whatever file it was (`find_directory_alike`).
  2. **New files** — a new file is where nothing was, and its path leads to it
     (`new_of_createNew`).
  3. **More files** — where files have only been added, a path that leads to one leads there still
     (`Adds.find`).
  4. **Removed files** — a file that a path leads to can be removed, and nothing else goes with it
     (`removes_file`).
  5. **Different files** — paths are `Apart` if they do not lead to one file.  A file that has been
     written, apart from another one, is not where that one was (`Apart.elsewhere`).
-/
import GoWorkbench.Proofs.FileSystem.Reading

namespace GoWorkbench

open Entry

namespace FileSystem

variable {fs fs' : FileSystem} {purpose : Purpose} {path other : String} {data before : List UInt8}
  {spot place : List String} {executable : Bool}

/-! ## Other files -/

/-- **Other files**: where the file at the spot has changed, a path to another file leads there as
    before. -/
theorem reach_spared (same : SameBut spot fs fs') (elsewhere : place ≠ spot)
    (h : fs.reach purpose path = .ok (.object ⟨place, 0⟩ (.file data executable))) :
    fs'.reach purpose path = .ok (.object ⟨place, 0⟩ (.file data executable)) := by
  have alike := reach_alike same purpose path
  rw [h] at alike
  generalize fs'.reach purpose path = ending at alike ⊢
  cases alike with
  | same => rfl
  | atSpot at_spot _ =>
    cases at_spot with
    | file is => exact absurd is elsewhere

/-- A path to a directory leads there still when a file has changed. -/
theorem find_directory_alike {location : Place} {inner : List (String × Entry)}
    (same : SameBut spot fs fs')
    (found : fs.find path = .ok (location, .directory inner)) :
    ∃ inner', fs'.find path = .ok (location, .directory inner') := by
  have alike := reach_alike same .look path
  rw [reach_of_find found] at alike
  unfold FileSystem.find
  generalize fs'.reach .look path = ending at alike ⊢
  cases alike with
  | same => exact ⟨inner, rfl⟩
  | directory _ _ inner' => exact ⟨inner', rfl⟩
  | atSpot at_spot _ => cases at_spot

/-- What is in order stays so when one file changes. -/
theorem Orderly.alike (orderly : fs.Orderly) (same : SameBut spot fs fs')
    (proper : Proper fs'.entries) : fs'.Orderly where
  proper := proper
  stands := by
    rw [same.current]
    exact orderly.stands.of_dirAt_iff same.dirs
  names := by
    rw [same.current]
    exact orderly.names
  targets := fun route target h => by
    by_cases at_spot : route = spot
    · rw [at_spot] at h
      exact absurd h (same.no_link' target)
    · rw [same.leaves route at_spot] at h
      exact orderly.targets route target h

/-! ## New files -/

/-- **New files**: a new file is made where nothing was, and its path leads to it. -/
theorem new_of_createNew (orderly : fs.Orderly) (plain : endsInSlash path = false)
    (h : fs.createNew path data = .ok fs') :
    ∃ spot, Entry.at? spot fs.entries = none ∧ SameBut spot fs fs' ∧ fs'.Orderly ∧
      fs'.reach .lookAtLink path = .ok (.object ⟨spot, 0⟩ (.file data false)) := by
  obtain ⟨spot, free, same, looked, -⟩ := remove_of_createNew orderly.stands plain h
  have proper : Proper fs'.entries := by
    unfold createNew at h
    split at h
    · cases h
    · rename_i parent name reaches
      obtain rfl := Except.ok.inj h
      cases walk_sits (((reach_eq_walk reaches).2 .lookAtLink).symm.trans reaches)
        (orderly.start path) with
      | vacant naming there free =>
        refine (orderly.put there ?_ (orderly.isName_of_vacant reaches) data false).proper
        rintro ⟨inner, hinner⟩
        rw [free] at hinner
        cases hinner
    · cases h
  exact ⟨spot, free, same, orderly.alike same proper, looked⟩

/-! ## More files -/

/-- The second file system holds what the first one does, and perhaps more. -/
structure Adds (fs fs' : FileSystem) : Prop where
  current : fs'.current = fs.current
  kept : Reduced fs' fs

/-- **More files**: what has been found is found still. -/
theorem Adds.find {location : Place} {entry : Entry} (adds : Adds fs fs')
    (found : fs.find path = .ok (location, entry)) :
    ∃ entry', fs'.find path = .ok (location, entry') ∧ Kept (some entry') entry := by
  have reaches := reach_of_find found
  have walked := (reach_elsewhere reaches fs .look).symm.trans reaches
  obtain ⟨entry', walked', kept⟩ := walk_reduced adds.kept Purpose.noConfusion walked
  refine ⟨entry', ?_, kept⟩
  unfold FileSystem.find
  rw [reach_elsewhere reaches fs' .look, adds.current, walked']

/-- A new file is an addition. -/
theorem adds_of_createNew (orderly : fs.Orderly) (plain : endsInSlash path = false)
    (h : fs.createNew path data = .ok fs') : Adds fs fs' := by
  obtain ⟨spot, free, same, -⟩ := new_of_createNew orderly plain h
  refine ⟨same.current, fun route => (same.dirs route).mpr, fun route entry was => ?_⟩
  by_cases at_spot : route = spot
  · rw [at_spot] at was
    rw [at?_of_leafAt was] at free
    cases free
  · rwa [same.leaves route at_spot]

/-! ## Removed files -/

/-- **Removed files**: the file that a path leads to can be removed, and nothing else goes. -/
theorem removes_file (orderly : fs.Orderly)
    (h : fs.reach .lookAtLink path = .ok (.object ⟨spot, 0⟩ (.file data executable))) :
    ∃ fs', fs.remove path = .ok fs' ∧ fs'.Orderly ∧ SameBut spot fs fs' ∧
      Entry.at? spot fs'.entries = none ∧ ∀ entry, fs'.findLink path ≠ .ok entry := by
  have found := orderly.file_there h
  obtain ⟨parent, name, rfl, -⟩ := exists_parent found fun _ h => Entry.noConfusion h
  obtain ⟨same, gone⟩ := sameBut_erase orderly.stands found
  have orderly' := orderly.alike same orderly.proper.erase
  refine ⟨fs.erase (parent ++ [name]), ?_, orderly', same, gone, fun entry is => ?_⟩
  · unfold remove
    rw [h]
  · -- the path leads nowhere else than before
    have alike := reach_alike same .lookAtLink path
    rw [h] at alike
    unfold findLink at is
    generalize reaches : (fs.erase (parent ++ [name])).reach .lookAtLink path = ending at alike is
    have not_there : ∀ location data executable, location.names = parent ++ [name] →
        ending ≠ .ok (.object location (.file data executable)) := by
      rintro location data executable there rfl
      have found' := orderly'.file_there reaches
      rw [there, gone] at found'
      cases found'
    cases alike with
    | same => exact not_there _ _ _ rfl rfl
    | atSpot _ at_spot =>
      cases at_spot with
      | file there => exact not_there _ _ _ there rfl
      | vacant | missing | blocked => cases is

/-! ## Different files -/

/-- The paths do not lead to one and the same file. -/
def Apart (fs : FileSystem) (path other : String) : Prop :=
  ∀ location entry entry', fs.find path = .ok (location, entry) →
    fs.find other ≠ .ok (location, entry')

/-- A file that has been written, apart from another one, is not where the other one was. -/
theorem Apart.elsewhere {file : String} {executable' : Bool} (apart : Apart fs' file other)
    (same : SameBut spot fs fs') (orderly : fs'.Orderly)
    (found : fs'.find file = .ok (⟨spot, 0⟩, .file data executable'))
    (h : fs.reach purpose other = .ok (.object ⟨place, 0⟩ (.file before executable))) :
    place ≠ spot := by
  rintro rfl
  have there := orderly.file_there (reach_of_find found)
  have looked := reach_of_file (fun h : Purpose.look = .lookAtLink => Purpose.noConfusion h) h
  refine apart _ _ (.file data executable') found ?_
  unfold FileSystem.find
  rw [reach_overwritten same there looked rfl]

end FileSystem

end GoWorkbench
