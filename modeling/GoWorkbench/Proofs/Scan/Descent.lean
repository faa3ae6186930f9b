/-
  Files below the top of a scan, where links may lead to the top.

  The names below the top are those of real directories and files, so once a walk has arrived at
  the top, the rest of a path finds what the tree says (`LeadsInto.reach_cases`).  What is left to
  hinder is a name or a path that is too long (`Within`).
-/
import GoWorkbench.Proofs.FileSystem.Alike
import GoWorkbench.Proofs.Scan.Symbols

namespace GoWorkbench.Scan

open Entry FileSystem

variable {fs fs' : FileSystem} {purpose : Purpose} {top : String}
  {root names spot : List String} {data : List UInt8} {executable : Bool}

/-! ## Tops -/

/-- A path from the root leads into a directory, perhaps through links. -/
structure LeadsInto (fs : FileSystem) (top : String) (root : List String) : Prop where
  absolute : Path.isAbsolute top = true
  no_nul : '\x00' ∉ top.toList
  arrives : ∃ left, Arrives fs maxLinks .root (components top) left ⟨root, 0⟩
  there : dirAt root fs.entries

theorem LeadsInto.ne_empty (into : LeadsInto fs top root) : top ≠ "" := by
  rintro rfl
  exact Bool.noConfusion into.absolute

theorem reach_of_list {inner : List (String × Entry)} (h : fs.list top = .ok inner) :
    ∃ location, fs.reach .look top = .ok (.object location (.directory inner)) := by
  unfold FileSystem.list FileSystem.find at h
  rcases hreach : fs.reach .look top with t | ⟨location, entry⟩ | ⟨parent, name⟩
  · rw [hreach] at h; cases h
  · rw [hreach] at h
    cases entry with
    | directory found =>
      cases h
      exact ⟨location, rfl⟩
    | file | link => cases h
  · rw [hreach] at h; cases h

theorem leadsInto_of_reach (absolute : Path.isAbsolute top = true) {location : Place}
    {inner : List (String × Entry)}
    (h : fs.reach .look top = .ok (.object location (.directory inner))) :
    LeadsInto fs top location.names ∧ location = ⟨location.names, 0⟩ ∧
      inner = fs.entriesAt location := by
  unfold FileSystem.reach at h
  split at h
  · cases h
  rename_i no_nul
  split at h
  · cases h
  split at h
  · cases h
  obtain ⟨⟨left, arrives⟩, is⟩ := arrives_of_walk h
  obtain ⟨stands, whole⟩ := arrives.stands (stands_root _) rfl
  obtain ⟨root, gone⟩ := location
  obtain rfl : gone = 0 := whole
  exact ⟨⟨absolute, no_nul, ⟨left, arrives⟩, stands.dirAt rfl⟩, rfl, is⟩

/-- A path leads into the same directory in both. -/
theorem LeadsInto.alike (same : SameBut spot fs fs') (into : LeadsInto fs top root) :
    LeadsInto fs' top root := by
  obtain ⟨left, arrives⟩ := into.arrives
  exact ⟨into.absolute, into.no_nul, ⟨left, arrives.alike same⟩, (same.dirs root).mpr into.there⟩

/-! ## Paths -/

/-- The path of names below a top is not too long, nor is one of the names. -/
structure Within (top : String) (names : List String) : Prop where
  path : (pathOf top names).utf8ByteSize ≤ maxPath
  names : ∀ n ∈ names, n.utf8ByteSize ≤ maxName

section
variable (into : LeadsInto fs top root) (some_name : names ≠ []) (valid : ∀ n ∈ names, IsName n)
include into some_name valid

/-- A path below the top is walked from there. -/
theorem LeadsInto.reach (short : (pathOf top names).utf8ByteSize ≤ maxPath) (purpose : Purpose) :
    ∃ left, fs.reach purpose (pathOf top names) = fs.walk purpose false left ⟨root, 0⟩ names := by
  obtain ⟨left, arrives⟩ := into.arrives
  obtain ⟨rooted, parts, plain⟩ := join_slashed into.ne_empty some_name valid
  have some_path : pathOf top names ≠ "" := by
    intro h
    unfold pathOf at h
    rw [h, into.absolute] at rooted
    cases rooted
  refine ⟨left, ?_⟩
  rw [reach_of_passable (nul_not_mem_pathOf into.no_nul valid) some_path short]
  unfold pathOf
  rw [rooted, into.absolute, if_pos rfl, parts, plain, arrives.walk_append some_name]

/-- What is reached has a short path of short names. -/
theorem LeadsInto.within_of_reach {target : Target}
    (reaches : fs.reach purpose (pathOf top names) = .ok target) : Within top names := by
  have path : (pathOf top names).utf8ByteSize ≤ maxPath := by
    refine Nat.le_of_not_lt fun long => ?_
    unfold FileSystem.reach at reaches
    split at reaches
    · cases reaches
    · split at reaches
      · cases reaches
      · cases reaches
  obtain ⟨left, walks⟩ := into.reach some_name valid path purpose
  rw [walks] at reaches
  exact ⟨path, short_of_walk reaches⟩

/-- **What is reached** by the path of a file below the top is that file, or the path is refused for
    its length. -/
theorem LeadsInto.reach_cases (purpose : Purpose)
    (found : Entry.at? (root ++ names) fs.entries = some (.file data executable)) :
    (Within top names ∧ fs.reach purpose (pathOf top names) =
      .ok (.object ⟨root ++ names, 0⟩ (.file data executable))) ∨
    (¬ Within top names ∧ ∃ t, fs.reach purpose (pathOf top names) = .error t) := by
  by_cases within : Within top names
  · obtain ⟨left, walks⟩ := into.reach some_name valid within.path purpose
    refine Or.inl ⟨within, walks.trans ?_⟩
    exact walk_names (fun _ => rfl) into.there valid within.names found (fits_file data executable)
  · refine Or.inr ⟨within, ?_⟩
    rcases hreach : fs.reach purpose (pathOf top names) with t | target
    · exact ⟨t, rfl⟩
    · exact absurd (into.within_of_reach some_name valid hreach) within

theorem LeadsInto.read_eq_ok
    (found : Entry.at? (root ++ names) fs.entries = some (.file data executable))
    {got : List UInt8} :
    fs.read (pathOf top names) = .ok got ↔ Within top names ∧ got = data := by
  unfold FileSystem.read FileSystem.find
  obtain ⟨within, reaches⟩ | ⟨long, t, refused⟩ :=
    into.reach_cases some_name valid .look found
  · simp [reaches, within, eq_comm]
  · simp [refused, long]

/-- A file is written where it is, and stays as executable as it was. -/
theorem LeadsInto.write_eq_ok
    (found : Entry.at? (root ++ names) fs.entries = some (.file data executable))
    {bytes : List UInt8} : fs.write (pathOf top names) bytes = .ok fs' ↔
      Within top names ∧ fs' = fs.put (root ++ names) (.file bytes executable) := by
  unfold FileSystem.write
  obtain ⟨within, reaches⟩ | ⟨long, t, refused⟩ :=
    into.reach_cases some_name valid .create found
  · simp [reaches, within, eq_comm]
  · simp [refused, long]

theorem LeadsInto.remove_eq_ok
    (found : Entry.at? (root ++ names) fs.entries = some (.file data executable)) :
    fs.remove (pathOf top names) = .ok fs' ↔
      Within top names ∧ fs' = fs.erase (root ++ names) := by
  unfold FileSystem.remove
  obtain ⟨within, reaches⟩ | ⟨long, t, refused⟩ :=
    into.reach_cases some_name valid .lookAtLink found
  · simp [reaches, within, eq_comm]
  · simp [refused, long]

end

end GoWorkbench.Scan
