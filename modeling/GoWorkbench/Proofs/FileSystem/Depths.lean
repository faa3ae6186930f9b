/-
  Deep trees.

  A directory can lie so deep that its path from the root is longer than a system takes, and still be
  reached through a link.

  1. **Sizes** — a path of names has the bytes of the names, and one for each slash
     (`size_slashed`).
  2. **Nests** — `nested` are directories within each other that have one name; what is in the
     innermost is found along that name (`at?_nested`).
  3. **The deepest directory** — sixty-three directories with names of sixty-four bytes have the
     longest path that there is (`sum_deepest`), so the paths of what is in the last one are too
     long (`long_below`).
-/
import Mathlib.Algebra.GroupWithZero.Nat
import GoWorkbench.Proofs.FileSystem.Links

namespace GoWorkbench

open Entry

namespace FileSystem

variable {name : String} {depth : Nat} {route names : List String}
  {inner : List (String × Entry)}

/-! ## Sizes -/

/-- **Sizes**: each name of a path from the root stands after a slash. -/
theorem size_slashed (some_name : names ≠ []) :
    ("/" ++ Path.slashed names).utf8ByteSize = (names.map fun n => n.utf8ByteSize + 1).sum := by
  induction names with
  | nil => exact absurd rfl some_name
  | cons name rest ih =>
    have slash : "/".utf8ByteSize = 1 := by decide
    by_cases last : rest = []
    · rw [last, Path.slashed_singleton, String.utf8ByteSize_append, slash]
      simp [Nat.add_comm]
    · rw [Path.slashed_cons name last, String.append_assoc, String.utf8ByteSize_append,
        String.utf8ByteSize_append, ih last, slash, List.map_cons, List.sum_cons]
      omega

/-! ## Nests -/

/-- Directories within each other, all of one name; the innermost has the entries. -/
def nested (name : String) (inner : List (String × Entry)) : Nat → List (String × Entry)
  | 0 => inner
  | depth + 1 => [(name, .directory (nested name inner depth))]

/-- **Nests**: what is in the innermost directory is found along the name. -/
theorem at?_nested : Entry.at? (List.replicate depth name ++ route) (nested name inner depth) =
    Entry.at? route inner := by
  induction depth with
  | zero => rfl
  | succ depth ih =>
    rw [List.replicate_succ, List.cons_append, at?_cons, nested, child?_cons, if_pos rfl]
    exact ih

theorem proper_nested (isName : IsName name) (proper : Proper inner) :
    Proper (nested name inner depth) := by
  induction depth with
  | zero => exact proper
  | succ depth ih =>
    rw [nested, proper_cons]
    refine ⟨isName, List.not_mem_nil, fun _ is => ?_, proper_nil⟩
    obtain rfl := Entry.directory.inj is
    exact ih

theorem linkRoutes_nested : linkRoutes (nested name inner depth) =
    (linkRoutes inner).map (List.replicate depth name ++ ·) := by
  induction depth with
  | zero => exact (List.map_id _).symm
  | succ depth ih =>
    rw [nested, linkRoutes, linkRoutes, ih, List.map_map, List.append_nil]
    rfl

/-! ## The deepest directory -/

/-- A name of sixty-four bytes. -/
def longName : String := "dddddddddddddddddddddddddddddddddddddddddddddddddddddddddddddddd"

theorem isName_longName : IsName longName := by decide

theorem size_longName : longName.utf8ByteSize = 64 := by decide

/-- The names that lead to the deepest directory. -/
def deepest : List String := List.replicate 63 longName

theorem deepest_valid : ∀ n ∈ deepest, IsName n := fun n listed => by
  rw [List.eq_of_mem_replicate listed]
  exact isName_longName

theorem deepest_short : ∀ n ∈ deepest, n.utf8ByteSize ≤ maxName := fun n listed => by
  rw [List.eq_of_mem_replicate listed, size_longName]
  decide

theorem sum_deepest : (deepest.map fun n => n.utf8ByteSize + 1).sum = maxPath := by
  unfold deepest
  rw [List.map_replicate, List.sum_replicate_nat, size_longName]
  decide

/-- The path of anything below it is too long. -/
theorem long_below (name : String) (rest : List String) :
    maxPath < ("/" ++ Path.slashed (deepest ++ name :: rest)).utf8ByteSize := by
  rw [size_slashed (List.append_ne_nil_of_right_ne_nil _ (List.cons_ne_nil _ _)), List.map_append,
    List.sum_append, sum_deepest, List.map_cons, List.sum_cons]
  omega

/-- So nothing is found by it. -/
theorem find_of_long {fs : FileSystem} {path : String} (long : maxPath < path.utf8ByteSize)
    (leads : LeadsTo path names) : fs.find path = .error .nameTooLong := by
  unfold FileSystem.find reach
  rw [if_neg leads.no_nul, if_neg (by simpa using leads.ne_empty), if_pos long]

end FileSystem

end GoWorkbench
