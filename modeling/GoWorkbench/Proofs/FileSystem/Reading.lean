/-
  Files that are read by a path, and written by the same one.

  1. **Plain forms** — a path and its plain form differ in dots and slashes, so if a file can be
     read by both, it is the same file (`read_plain`).
  2. **Opening** — a path that leads to a file leads there also where the file is to be written
     (`reach_of_file`).
  3. **Written over** — where bytes have been written to a file, a path to a file leads to what was
     there, or to these bytes (`read_stored`).
-/
import GoWorkbench.Proofs.FileSystem.Storing

namespace GoWorkbench

open Entry

namespace FileSystem

variable {fs fs' : FileSystem} {path file : String} {data : List UInt8} {slash slash' : Bool}
  {links : Nat} {here location location' : Place} {todo todo' : List String} {entry entry' : Entry}

/-! ## Plain forms -/

/-- The components without those that stay where they are. -/
def dotless (todo : List String) : List String := todo.filter (· != ".")

theorem dotless_cons {name : String} (not_dot : name ≠ ".") (rest : List String) :
    dotless (name :: rest) = name :: dotless rest :=
  List.filter_cons_of_pos (by simpa using not_dot)

theorem dotless_append (before after : List String) :
    dotless (before ++ after) = dotless before ++ dotless after := List.filter_append ..

/-- A walk passes over the dots at the front. -/
theorem walk_dots (fs : FileSystem) {name : String} {rest : List String} (not_dot : name ≠ ".")
    (same : dotless todo = dotless (name :: rest)) : ∃ rest', dotless rest' = dotless rest ∧
      ∀ slash links here,
        fs.walk .look slash links here todo = fs.walk .look slash links here (name :: rest') := by
  rw [dotless_cons not_dot] at same
  induction todo with
  | nil => cases same
  | cons first todo ih =>
    by_cases dot : first = "."
    · subst dot
      obtain ⟨rest', is, goes⟩ := ih same
      refine ⟨rest', is, fun slash links here => ?_⟩
      rw [walk, if_pos rfl, goes]
    · rw [dotless_cons dot] at same
      obtain ⟨rfl, is⟩ := List.cons.inj same
      exact ⟨todo, is, fun _ _ _ => rfl⟩

/-- Two walks that differ in dots and slashes do not end at two files. -/
theorem walk_file_unique {data' : List UInt8} {executable executable' : Bool}
    (h : fs.walk .look slash links here todo = .ok (.object location (.file data executable)))
    (h' : fs.walk .look slash' links here todo' = .ok (.object location' (.file data' executable')))
    (same : dotless todo' = dotless todo) :
    data' = data := by
  generalize wanted : Purpose.look = purpose at h
  fun_induction FileSystem.walk fs purpose slash links here todo generalizing slash' todo' with
  | case1 => cases h
  | case2 slash links here rest ih => exact ih h' same h
  | case3 slash links here rest not_dot ih =>
    obtain ⟨rest', is, goes⟩ := walk_dots fs not_dot same
    rw [goes, walk, if_neg not_dot, if_pos rfl] at h'
    exact ih h' is h
  | case4 | case5 | case6 | case7 | case10 | case12 => cases h
  | case8 slash links here name rest not_dot not_dots plain short inner found ih =>
    obtain ⟨rest', is, goes⟩ := walk_dots fs not_dot same
    rw [goes, (ByName.of_looks (by decide) not_dot not_dots short).walk_directory found] at h'
    exact ih h' is h
  | case9 slash links here name rest not_dot not_dots plain short data executable found last =>
    obtain ⟨rest', is, goes⟩ := walk_dots fs not_dot same
    rw [goes, (ByName.of_looks (by decide) not_dot not_dots short).walk_file found] at h'
    split at h'
    · cases h
      cases h'
      rfl
    · cases h'
  | case11 slash links here name rest not_dot not_dots plain short target found looked =>
    rw [← wanted] at looked
    simp at looked
  | case13 slash here name rest not_dot not_dots plain short target found followed links ih =>
    obtain ⟨rest', is, goes⟩ := walk_dots fs not_dot same
    rw [goes, (ByName.of_looks (by decide) not_dot not_dots short).walk_link found (by simp)] at h'
    exact ih h' (by rw [dotless_append, dotless_append, is]) h

theorem reach_of_find (h : fs.find path = .ok (location, entry)) :
    fs.reach .look path = .ok (.object location entry) := by
  unfold FileSystem.find at h
  split at h
  · cases h
  · cases h
  · rename_i place what reaches
    cases h
    exact reaches

/-- What the walk along a path ends at is found by it. -/
theorem find_of_walk (no_nul : '\x00' ∉ path.toList) (some_path : path ≠ "")
    (short : path.utf8ByteSize ≤ maxPath) (ends : endsInSlash path = slash)
    (start : (if Path.isAbsolute path then .root else fs.current) = here)
    (parts : components path = todo)
    (walked : fs.walk .look slash maxLinks here todo = .ok (.object location entry)) :
    fs.find path = .ok (location, entry) := by
  unfold FileSystem.find
  rw [reach_of_passable no_nul some_path short, ends, start, parts, walked]

theorem reach_of_read (h : fs.read path = .ok data) : ∃ location executable,
    fs.reach .look path = .ok (.object location (.file data executable)) := by
  unfold FileSystem.read at h
  split at h
  · cases h
  · rename_i location before executable found
    cases h
    exact ⟨location, executable, reach_of_find found⟩
  · cases h

/-- **Plain forms**: what is read by the plain form of a path is read by the path, if anything
    is. -/
theorem read_plain {data' : List UInt8} (h : fs.read path = .ok data)
    (h' : fs.read (Path.plain path) = .ok data') : data' = data := by
  obtain ⟨location, executable, reaches⟩ := reach_of_read h
  obtain ⟨location', executable', reaches'⟩ := reach_of_read h'
  obtain ⟨absolute, same⟩ := plain_components path
  have walked := ((reach_eq_walk reaches).2 .look).symm.trans reaches
  have walked' := ((reach_eq_walk reaches').2 .look).symm.trans reaches'
  rw [absolute] at walked'
  exact walk_file_unique walked walked' same

/-! ## Opening -/

/-- A walk to a file has no slash after it. -/
theorem no_slash_of_file {purpose : Purpose} {executable : Bool}
    (h : fs.walk purpose slash links here todo = .ok (.object location (.file data executable))) :
    slash = false := by
  fun_induction FileSystem.walk fs purpose slash links here todo with
  | case1 | case4 | case5 | case6 | case7 | case10 | case11 | case12 => cases h
  | case2 slash links here rest ih => exact ih h
  | case3 slash links here rest not_dot ih => exact ih h
  | case8 slash links here name rest not_dot not_dots plain short inner found ih => exact ih h
  | case9 slash links here name rest not_dot not_dots plain short data executable found last =>
    rw [Bool.and_eq_true, Bool.not_eq_true'] at last
    exact last.2
  | case13 slash here name rest not_dot not_dots plain short target found followed links ih =>
    exact (Bool.or_eq_false_iff.mp (ih h)).1

/-- **Opening**: a walk that ends at a file ends there whatever it is made for, unless it is to end
    at a link instead. -/
theorem walk_of_file {purpose wanted : Purpose} {executable : Bool}
    (follows : wanted = .lookAtLink → purpose = .lookAtLink)
    (h : fs.walk purpose slash links here todo = .ok (.object location (.file data executable))) :
    fs.walk wanted slash links here todo = .ok (.object location (.file data executable)) := by
  fun_induction FileSystem.walk fs purpose slash links here todo with
  | case1 | case4 | case5 | case6 | case7 | case10 | case11 | case12 => cases h
  | case2 slash links here rest ih =>
    rw [walk, if_pos rfl]
    exact ih h
  | case3 slash links here rest not_dot ih =>
    rw [walk, if_neg not_dot, if_pos rfl]
    exact ih h
  | case8 slash links here name rest not_dot not_dots plain short inner found ih =>
    have bare := no_slash_of_file h
    rw [ByName.walk_directory ⟨⟨not_dot, not_dots, Nat.le_of_not_lt short⟩, by simp [bare]⟩ found]
    exact ih h
  | case9 slash links here name rest not_dot not_dots plain short data executable found last =>
    have bare : slash = false := by simpa using (Bool.and_eq_true_iff.mp last).2
    rw [ByName.walk_file ⟨⟨not_dot, not_dots, Nat.le_of_not_lt short⟩, by simp [bare]⟩ found]
    exact (if_pos last).trans h
  | case13 slash here name rest not_dot not_dots plain short target found followed links ih =>
    have bare := (Bool.or_eq_false_iff.mp (no_slash_of_file h)).1
    have followed' : ¬ (rest.isEmpty && !slash && wanted = .lookAtLink) = true := by
      intro stops
      simp only [Bool.and_eq_true, decide_eq_true_eq] at stops followed
      exact followed ⟨stops.1, follows stops.2⟩
    rw [ByName.walk_link ⟨⟨not_dot, not_dots, Nat.le_of_not_lt short⟩, by simp [bare]⟩ found
      followed']
    exact ih h

/-- The same of paths. -/
theorem reach_of_file {purpose wanted : Purpose} {executable : Bool}
    (follows : wanted = .lookAtLink → purpose = .lookAtLink)
    (h : fs.reach purpose path = .ok (.object location (.file data executable))) :
    fs.reach wanted path = .ok (.object location (.file data executable)) := by
  obtain ⟨-, walks⟩ := reach_eq_walk h
  rw [walks wanted]
  exact walk_of_file follows ((walks purpose).symm.trans h)

/-! ## Written over -/

/-- What is at a path where a file has been written over, if the path leads to it. -/
theorem reach_overwritten {spot : List String} {before : List UInt8} {executable executable' : Bool}
    (same : SameBut spot fs fs')
    (found : Entry.at? spot fs'.entries = some (.file data executable'))
    (reaches : fs.reach .look path = .ok (.object location (.file before executable)))
    (is : location.names = spot) :
    fs'.reach .look path = .ok (.object ⟨spot, 0⟩ (.file data executable')) := by
  have walked := walk_of_file (fun h : Purpose.create = .lookAtLink => Purpose.noConfusion h)
    (((reach_eq_walk reaches).2 .look).symm.trans reaches)
  rw [reach_elsewhere reaches, same.current]
  exact walk_comes_back same found (by decide) (by simp) (by simp) walked (.file is)

/-- A file that a path leads to is there. -/
theorem Orderly.file_there (orderly : fs.Orderly) {purpose : Purpose} {executable : Bool}
    (reaches : fs.reach purpose path = .ok (.object location (.file data executable))) :
    Entry.at? location.names fs.entries = some (.file data executable) := by
  have walked := ((reach_eq_walk reaches).2 purpose).symm.trans reaches
  cases walk_sits walked (orderly.start path) with
  | leaf found => exact found

/-- **Written over**: after bytes have been written to a path, what is read by any path is what was
    read by it before, or these bytes. -/
theorem read_stored {written : List UInt8} (stored : Stored file written fs fs')
    (h : fs.read path = .ok data) :
    fs'.read path = .ok data ∨ fs'.read path = .ok written := by
  obtain ⟨location, executable, reaches⟩ := reach_of_read h
  obtain ⟨spot, executable', found, same⟩ := stored.found
  have there := stored.orderly.file_there (reach_of_find found)
  have alike := reach_alike same .look path
  rw [reaches] at alike
  unfold FileSystem.read FileSystem.find
  generalize after : fs'.reach .look path = ending at alike
  cases alike with
  | same => exact Or.inl rfl
  | atSpot at_spot _ =>
    cases at_spot with
    | file is =>
      rw [← after, reach_overwritten same there reaches is]
      exact Or.inr rfl

end FileSystem

end GoWorkbench
