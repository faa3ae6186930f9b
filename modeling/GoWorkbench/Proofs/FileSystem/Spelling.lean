/-
  Paths that are spelled in another way, or walked from elsewhere, and lead to the same directory.

  1. **Dots** — components that stay where they are make no difference to where a walk arrives
     (`Arrives.respelled`).
  2. **Plain forms** — so a path leads to the directory that its plain form leads to, if it is short
     enough to be walked at all (`find_of_plain`).
  3. **Elsewhere** — a path from the root leads to the same object from every working directory
     (`find_moved`).
-/
import GoWorkbench.Proofs.FileSystem.Links
import GoWorkbench.Proofs.FileSystem.Reading

namespace GoWorkbench.FileSystem

open Entry

variable {fs fs' : FileSystem} {path other name : String} {links left : Nat}
  {here there location : Place} {todo todo' rest : List String} {inner : List (String × Entry)}

/-! ## Dots -/

/-- Dots at the front of a walk stay where they are. -/
theorem arrives_of_dots (not_dot : name ≠ ".") (same : dotless todo = dotless (name :: rest))
    (goes : ∀ rest', dotless rest' = dotless rest →
      Arrives fs links here (name :: rest') left there) :
    Arrives fs links here todo left there := by
  rw [dotless_cons not_dot] at same
  induction todo with
  | nil => cases same
  | cons first todo ih =>
    by_cases dot : first = "."
    · subst dot
      exact .stays (ih same)
    · rw [dotless_cons dot] at same
      obtain ⟨rfl, is⟩ := List.cons.inj same
      exact goes todo is

/-- **Dots** make no difference to where a walk arrives. -/
theorem Arrives.respelled (h : Arrives fs links here todo left there)
    (same : dotless todo' = dotless todo) : Arrives fs links here todo' left there := by
  induction h generalizing todo' with
  | done =>
    induction todo' with
    | nil => exact .done
    | cons first todo' ih =>
      by_cases dot : first = "."
      · subst dot
        exact .stays (ih same)
      · rw [dotless_cons dot] at same
        cases same
  | stays _ ih => exact ih same
  | rises _ ih => exact arrives_of_dots (by decide) same fun _ is => .rises (ih is)
  | enters naming found _ ih =>
    exact arrives_of_dots naming.not_dot same fun _ is => .enters naming found (ih is)
  | follows naming found _ ih =>
    refine arrives_of_dots naming.not_dot same fun _ is => .follows naming found (ih ?_)
    rw [dotless_append, dotless_append, is]

/-! ## Plain forms -/

/-- A path leads to the directory that a path with the same start and the same names leads to. -/
theorem find_respelled (no_nul : '\x00' ∉ path.toList) (some_path : path ≠ "")
    (short : path.utf8ByteSize ≤ maxPath) (starts : Path.isAbsolute path = Path.isAbsolute other)
    (same : dotless (components path) = dotless (components other))
    (found : fs.find other = .ok (location, .directory inner)) :
    fs.find path = .ok (location, .directory inner) := by
  have reaches := reach_of_find found
  have walked := ((reach_eq_walk reaches).2 .look).symm.trans reaches
  obtain ⟨⟨left, on⟩, rfl⟩ := arrives_of_walk walked
  rw [← starts] at on
  exact find_of_walk no_nul some_path short rfl rfl rfl ((on.respelled same).walk _)

/-- **Plain forms**: where the plain form of a path leads to a directory, the path does, unless it
    is too long. -/
theorem find_of_plain (some_path : path ≠ "") (short : path.utf8ByteSize ≤ maxPath)
    (found : fs.find (Path.plain path) = .ok (location, .directory inner)) :
    fs.find path = .ok (location, .directory inner) := by
  obtain ⟨starts, same⟩ := plain_components path
  exact find_respelled (nul_not_mem_of_plain (no_nul_of_find found)) some_path short starts.symm
    same.symm found

/-! ## Elsewhere -/

/-- A walk goes by the entries alone. -/
theorem walk_moved (same : fs'.entries = fs.entries) (purpose : Purpose) (slash : Bool)
    (links : Nat) (here : Place) (todo : List String) :
    fs'.walk purpose slash links here todo = fs.walk purpose slash links here todo := by
  have entries : ∀ place, fs'.entriesAt place = fs.entriesAt place := fun place => by
    unfold entriesAt
    rw [same]
  -- each step asks for the entries of a place, and what it does then is the same
  fun_induction FileSystem.walk fs purpose slash links here todo <;> rw [walk] <;> grind

/-- **Elsewhere**: a path from the root leads to the same object whatever the working directory
    is. -/
theorem find_moved (same : fs'.entries = fs.entries) (absolute : Path.isAbsolute path = true) :
    fs'.find path = fs.find path := by
  unfold FileSystem.find FileSystem.reach
  rw [if_pos absolute, if_pos absolute, walk_moved same]

end GoWorkbench.FileSystem
