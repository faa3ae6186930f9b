/-
  Which paths lie below which, by their text.

  The names of a path are the components of its normal form.  A path lies below another one if its
  names go on from the names of that.

  1. **Names** — the names of a path from the root are those that its components lead to
     (`names_eq`); what is joined to a directory goes on from there (`names_join`).
  2. **Inward paths** — a relative path whose normal form has neither `.` nor `..` goes on with its
     names, wherever it is joined (`Inward.names_join`).
  3. **Endings** — text after a normal form makes the last name longer (`names_append_longer`), or
     is one name more (`names_append_name`).
  4. **Below** — so a normal form with an ending lies below a root if the form does, and where it
     does not, only as a name in the root itself (`below_append_iff`).
-/
import GoWorkbench.Proofs.FileSystem.Spots

namespace GoWorkbench

open FileSystem

/-! ## Steps -/

namespace FileSystem

/-- Components that are no dots are gone through one by one. -/
theorem steps_solid {todo : List String} (solid : ∀ n ∈ todo, Solid n) (names : List String) :
    steps names todo = names ++ todo := by
  induction todo generalizing names with
  | nil => exact (List.append_nil names).symm
  | cons first rest ih =>
    obtain ⟨⟨-, not_dot, not_dots⟩, solid⟩ := List.forall_mem_cons.mp solid
    have step_eq : step names first = names ++ [first] := by
      unfold step
      rw [if_neg not_dot, if_neg not_dots]
    rw [steps_cons, step_eq, ih solid, List.append_assoc, List.singleton_append]

/-- What is longer than dots is no dots. -/
theorem solid_of_length {component : String} (long : 2 < component.toList.length) :
    Solid component := by
  refine ⟨?_, ?_, ?_⟩ <;>
    · rintro rfl
      exact absurd long (by decide)

end FileSystem

namespace Path

variable {root directory path rest ending name : String}

/-! ## Names -/

theorem ne_empty_of_isAbsolute (absolute : isAbsolute path = true) : path ≠ "" := by
  rintro rfl
  cases absolute

/-- What is joined to a path from the root starts there as well. -/
theorem isAbsolute_join (absolute : isAbsolute directory = true) (rest : String) :
    isAbsolute (join directory rest) = true := by
  by_cases rooted : isAbsolute rest = true
  · unfold join
    rw [if_pos rooted]
    exact rooted
  · rw [join_of_relative (Bool.eq_false_iff.mpr rooted),
      isAbsolute_base (ne_empty_of_isAbsolute absolute)]
    exact absolute

/-- The components of the normal form. -/
def names (path : String) : List String := components (normalize path)

/-- What a path has collapsed to has no slash in it. -/
theorem no_slash_of_mem_collapse {rooted : Bool} {n : String}
    (h : n ∈ collapse rooted (parts path)) : '/' ∉ n.toList := by
  have part : n ∈ parts path :=
    (mem_foldl_push _ (List.mem_reverse.mp h)).resolve_left List.not_mem_nil
  exact fun slash => (mem_of_mem_parts part slash).2 rfl

/-- The normal form of a path from the root: its slashes, and what it has collapsed to. -/
theorem normalize_rooted (absolute : isAbsolute path = true) :
    (rootOf path = "/" ∨ rootOf path = "//") ∧
      normalize path = rootOf path ++ slashed (collapse true (parts path)) := by
  obtain ⟨-, is_root⟩ | ⟨relative, -⟩ := rootOf_cases path
  · refine ⟨is_root, ?_⟩
    have rooted : (!(rootOf path).isEmpty) = true := by
      rcases is_root with h | h <;> rw [h] <;> rfl
    have some_text : ¬ (rootOf path ++ slashed (collapse true (parts path))).isEmpty = true := by
      rw [String.isEmpty_iff]
      rcases is_root with h | h <;> rw [h] <;> simp
    unfold normalize
    dsimp only
    rw [rooted, if_neg some_text]
  · rw [relative] at absolute
    cases absolute

/-- The names of a path from the root are what it collapses to. -/
theorem names_eq_collapse (absolute : isAbsolute path = true) :
    names path = collapse true (parts path) := by
  unfold names
  rw [(normalize_rooted absolute).2, components_rootOf,
    components_slashed (fun n hn => ((collapse_rooted _).2 n hn).1)
      fun n hn => no_slash_of_mem_collapse hn]

/-- **Names**: the names of a path from the root are those that its components lead to. -/
theorem names_eq (absolute : isAbsolute path = true) :
    names path = steps [] (components path) := by
  rw [names_eq_collapse absolute, (collapse_rooted _).1]
  rfl

theorem solid_names (absolute : isAbsolute path = true) : ∀ n ∈ names path, Solid n := by
  rw [names_eq_collapse absolute]
  exact (collapse_rooted _).2

/-- What is joined to a directory goes on from the names of the directory. -/
theorem names_join (absolute : isAbsolute directory = true) (relative : isAbsolute rest = false) :
    names (join directory rest) = steps (names directory) (components rest) := by
  rw [names_eq (isAbsolute_join absolute rest), names_eq absolute, join_of_relative relative,
    components_base (ne_empty_of_isAbsolute absolute)]
  unfold steps
  rw [List.foldl_append]

/-! ## Inward paths -/

/-- A relative path that goes nowhere but down: its normal form has neither `.` nor `..`. -/
def Inward (path : String) : Prop := isAbsolute path = false ∧ ∀ n ∈ names path, Solid n

/-- Pushing keeps nothing that is empty or a dot. -/
theorem kept_foldl_push {kept : List String} (h : ∀ n ∈ kept, n ≠ "" ∧ n ≠ ".")
    (parts : List String) : ∀ n ∈ parts.foldl (push false) kept, n ≠ "" ∧ n ≠ "." := by
  induction parts generalizing kept with
  | nil => exact h
  | cons part rest ih => exact ih (pushed_push [] h part).2

/-- The normal form of a relative path: what it has collapsed to, or a dot. -/
theorem names_relative (relative : isAbsolute path = false) :
    names path =
      if collapse false (parts path) = [] then ["."] else collapse false (parts path) := by
  have rootless : rootOf path = "" := by
    obtain ⟨absolute, -⟩ | ⟨-, is_root⟩ := rootOf_cases path
    · rw [relative] at absolute
      cases absolute
    · exact is_root
  have nonempty : ∀ n ∈ collapse false (parts path), n ≠ "" := fun n hn =>
    (kept_foldl_push (fun _ h => absurd h List.not_mem_nil) _ n (List.mem_reverse.mp hn)).1
  have no_slash : ∀ n ∈ collapse false (parts path), '/' ∉ n.toList :=
    fun n hn => no_slash_of_mem_collapse hn
  unfold names normalize
  dsimp only
  rw [rootless, String.empty_append]
  show components (if (slashed (collapse false (parts path))).isEmpty then "."
    else slashed (collapse false (parts path))) = _
  generalize collapse false (parts path) = kept at nonempty no_slash ⊢
  by_cases none : kept = []
  · rw [none, if_pos rfl]
    rfl
  · have named := components_slashed nonempty no_slash
    have some_text : ¬ (slashed kept).isEmpty = true := fun empty => by
      rw [String.isEmpty_iff.mp empty] at named
      exact none named.symm
    rw [if_neg none, if_neg some_text, named]

/-- **Inward paths** go on with their names, of which there are some. -/
theorem Inward.names_join (inward : Inward rest) (absolute : isAbsolute directory = true) :
    names (join directory rest) = names directory ++ names rest ∧ names rest ≠ [] := by
  obtain ⟨relative, solid⟩ := inward
  have is := names_relative relative
  split at is
  · -- a path that collapses to nothing is a dot
    rw [is] at solid
    exact absurd rfl (solid "." List.mem_cons_self).2.1
  · rename_i some_name
    refine ⟨?_, by rwa [is]⟩
    have solid_directory := solid_names absolute
    have two : collapse true (names directory ++ collapse false (parts rest)) =
        steps (names directory) (components rest) := collapse_append solid_directory (parts rest)
    rw [Path.names_join absolute relative, ← two, ← is]
    unfold collapse
    rw [foldl_push_solid, List.append_nil, List.reverse_reverse]
    intro n hn
    exact (List.mem_append.mp hn).elim (solid_directory n) (solid n)

/-! ## Endings -/

/-- The names of a normal form with text after it, as long as that has some. -/
theorem names_append_text (absolute : isAbsolute path = true) (ending : String) :
    names (normalize path ++ ending) =
      steps [] (components (slashed (names path) ++ ending)) := by
  obtain ⟨is_root, text⟩ := normalize_rooted absolute
  have some_root : rootOf path ≠ "" := by rcases is_root with h | h <;> rw [h] <;> decide
  have rooted : isAbsolute (rootOf path) = true := by rcases is_root with h | h <;> rw [h] <;> rfl
  have starts : isAbsolute (normalize path ++ ending) = true := by
    rw [text, String.append_assoc, isAbsolute_append some_root]
    exact rooted
  rw [names_eq starts, text, String.append_assoc, components_rootOf, names_eq_collapse absolute]

theorem components_slashed_names (absolute : isAbsolute path = true) :
    components (slashed (names path)) = names path := by
  rw [names_eq_collapse absolute]
  exact components_slashed (fun n hn => ((collapse_rooted _).2 n hn).1)
    fun n hn => no_slash_of_mem_collapse hn

/-- The normal form has the same names. -/
theorem names_normalize (absolute : isAbsolute path = true) :
    names (normalize path) = names path := by
  have plain := names_append_text absolute ""
  rwa [String.append_empty, String.append_empty, components_slashed_names absolute,
    steps_solid (solid_names absolute), List.nil_append] at plain

/-- **Endings**: a slash and a name are one name more. -/
theorem names_append_name (absolute : isAbsolute path = true) (solid : Solid name)
    (no_slash : '/' ∉ name.toList) :
    names (normalize path ++ ("/" ++ name)) = names path ++ [name] := by
  have one : components name = [name] := by
    have named : components (slashed [name]) = [name] := by
      apply components_slashed
      · intro n hn
        rw [List.mem_singleton.mp hn]
        exact solid.1
      · intro n hn
        rw [List.mem_singleton.mp hn]
        exact no_slash
    rwa [slashed_singleton] at named
  rw [names_append_text absolute, ← String.append_assoc, components_append,
    components_slashed_names absolute, one, steps_solid, List.nil_append]
  intro n hn
  rcases List.mem_append.mp hn with hn | hn
  · exact solid_names absolute n hn
  · rw [List.mem_singleton.mp hn]
    exact solid

/-- Text after the last name makes it longer. -/
theorem slashed_append_text (front : List String) (last ending : String) :
    slashed (front ++ [last]) ++ ending = slashed (front ++ [last ++ ending]) := by
  by_cases none : front = []
  · rw [none, List.nil_append, List.nil_append, slashed_singleton, slashed_singleton]
  · rw [slashed_append none (List.cons_ne_nil _ _), slashed_append none (List.cons_ne_nil _ _),
      slashed_singleton, slashed_singleton, String.append_assoc]

/-- Text without slashes makes the last name longer, or is the only name. -/
theorem names_append_longer (absolute : isAbsolute path = true) (long : 2 < ending.toList.length)
    (no_slash : '/' ∉ ending.toList) :
    ∃ front last, names (normalize path ++ ending) = front ++ [last ++ ending] ∧
      (names path = front ++ [last] ∨ names path = [] ∧ front = []) := by
  -- the names but for the last one, which may have been none
  obtain ⟨front, last, text, before, no_slash_last, was⟩ : ∃ front last,
      slashed (names path) ++ ending = slashed (front ++ [last ++ ending]) ∧
        (∀ n ∈ front, n ∈ names path) ∧ '/' ∉ last.toList ∧
        (names path = front ++ [last] ∨ names path = [] ∧ front = []) := by
    rcases List.eq_nil_or_concat (names path) with none | ⟨front, last, is⟩
    · refine ⟨[], "", ?_, fun _ h => absurd h List.not_mem_nil, by decide, Or.inr ⟨none, rfl⟩⟩
      rw [none, List.nil_append, slashed_singleton]
      rfl
    · rw [List.concat_eq_append] at is
      refine ⟨front, last, ?_, fun n hn => ?_, ?_, Or.inl is⟩
      · rw [is, slashed_append_text]
      · rw [is]
        exact List.mem_append_left _ hn
      · have mem : last ∈ names path := by
          rw [is]
          exact List.mem_append_right _ List.mem_cons_self
        rw [names_eq_collapse absolute] at mem
        exact no_slash_of_mem_collapse mem
  have longer : 2 < (last ++ ending).toList.length := by
    rw [String.toList_append, List.length_append]
    omega
  have each : ∀ n ∈ front ++ [last ++ ending], Solid n ∧ '/' ∉ n.toList := by
    intro n hn
    rcases List.mem_append.mp hn with hn | hn
    · have mem := before n hn
      refine ⟨solid_names absolute n mem, ?_⟩
      rw [names_eq_collapse absolute] at mem
      exact no_slash_of_mem_collapse mem
    · rw [List.mem_singleton.mp hn]
      refine ⟨solid_of_length longer, fun slash => ?_⟩
      rw [String.toList_append] at slash
      exact (List.mem_append.mp slash).elim no_slash_last no_slash
  refine ⟨front, last, ?_, was⟩
  rw [names_append_text absolute, text,
    components_slashed (fun n hn => (each n hn).1.1) fun n hn => (each n hn).2,
    steps_solid fun n hn => (each n hn).1, List.nil_append]

/-- What may stand after a normal form so that its names are told from those of the form: nothing,
    text without slashes that is longer than dots, or a slash and one name. -/
inductive Ending : String → Prop
  | nothing : Ending ""
  | longer {ending : String} (long : 2 < ending.toList.length) (no_slash : '/' ∉ ending.toList) :
      Ending ending
  | name {name : String} (solid : Solid name) (no_slash : '/' ∉ name.toList) : Ending ("/" ++ name)

/-! ## Below -/

/-- The path lies below the root, by its text. -/
def Below (root path : String) : Prop := ∃ more, more ≠ [] ∧ names path = names root ++ more

/-- What an inward path is joined to lies above it, and so does what that goes on from. -/
theorem Inward.below_join (inward : Inward rest) (absolute : isAbsolute directory = true)
    {more : List String} (goes_on : names directory = names root ++ more) :
    Below root (join directory rest) := by
  obtain ⟨is, some_name⟩ := inward.names_join absolute
  refine ⟨more ++ names rest, fun none => some_name (List.append_eq_nil_iff.mp none).2, ?_⟩
  rw [is, goes_on, List.append_assoc]

/-- One name more goes on from a list just if the others begin with it. -/
theorem exists_concat_iff {top front : List String} {last : String} :
    (∃ more, more ≠ [] ∧ front ++ [last] = top ++ more) ↔ ∃ more, front = top ++ more := by
  constructor
  · rintro ⟨more, some_more, is⟩
    obtain ⟨more', last', rfl⟩ := (List.eq_nil_or_concat more).resolve_left some_more
    rw [List.concat_eq_append, ← List.append_assoc] at is
    exact ⟨more', (List.append_inj' is rfl).1⟩
  · rintro ⟨more, rfl⟩
    exact ⟨more ++ [last], List.concat_ne_nil last more, List.append_assoc _ _ _⟩

/-- One name more lies below the root if the path does, or is the root. -/
theorem below_append_name (absolute : isAbsolute path = true) (solid : Solid name)
    (no_slash : '/' ∉ name.toList) :
    Below root (normalize path ++ ("/" ++ name)) ↔
      Below root path ∨ names path = names root := by
  unfold Below
  rw [names_append_name absolute solid no_slash, exists_concat_iff]
  constructor
  · rintro ⟨more, is⟩
    by_cases none : more = []
    · rw [none, List.append_nil] at is
      exact Or.inr is
    · exact Or.inl ⟨more, none, is⟩
  · rintro (⟨more, -, is⟩ | same)
    · exact ⟨more, is⟩
    · exact ⟨[], same.trans (List.append_nil _).symm⟩

/-- A longer last name lies below the root if the path does, or if neither has names. -/
theorem below_append_longer (absolute : isAbsolute path = true) (long : 2 < ending.toList.length)
    (no_slash : '/' ∉ ending.toList) :
    Below root (normalize path ++ ending) ↔
      Below root path ∨ names path = [] ∧ names root = [] := by
  obtain ⟨front, last, is, was⟩ := names_append_longer absolute long no_slash
  unfold Below
  rw [is, exists_concat_iff]
  rcases was with was | ⟨nameless, rfl⟩
  · rw [was, exists_concat_iff]
    exact ⟨Or.inl, fun h => h.resolve_right fun ⟨nameless, _⟩ => List.concat_ne_nil _ _ nameless⟩
  · rw [nameless]
    constructor
    · rintro ⟨more, is⟩
      exact Or.inr ⟨rfl, (List.append_eq_nil_iff.mp is.symm).1⟩
    · rintro (⟨more, some_more, is⟩ | ⟨-, rootless⟩)
      · exact absurd (List.append_eq_nil_iff.mp is.symm).2 some_more
      · exact ⟨[], by rw [rootless]; rfl⟩

/-- **Below**: a normal form with an ending lies below a root if the path does.  Else only one name
    more at the root itself does, or a name where the root has none. -/
theorem below_append_iff (absolute : isAbsolute path = true) (ends : Ending ending) :
    Below root (normalize path ++ ending) ↔ Below root path ∨
      names path = names root ∧
        (ending.toList.head? = some '/' ∨ names root = [] ∧ ending ≠ "") := by
  cases ends with
  | nothing =>
    rw [String.append_empty]
    unfold Below
    rw [names_normalize absolute]
    refine ⟨Or.inl, fun h => h.resolve_right ?_⟩
    rintro ⟨-, slash | ⟨-, some_text⟩⟩
    · cases slash
    · exact some_text rfl
  | @name name solid no_slash =>
    have slash : ("/" ++ name).toList.head? = some '/' := by
      rw [String.toList_append]
      rfl
    rw [below_append_name absolute solid no_slash]
    exact or_congr_right ⟨fun same => ⟨same, Or.inl slash⟩, And.left⟩
  | longer long no_slash =>
    have head : ending.toList.head? ≠ some '/' := fun head => no_slash (List.mem_of_head? head)
    have some_text : ending ≠ "" := by
      rintro rfl
      exact absurd long (by decide)
    rw [below_append_longer absolute long no_slash]
    refine or_congr_right ⟨fun ⟨nameless, rootless⟩ => ?_, fun ⟨same, more⟩ => ?_⟩
    · exact ⟨nameless.trans rootless.symm, Or.inr ⟨rootless, some_text⟩⟩
    · have rootless := (more.resolve_left head).1
      exact ⟨same.trans rootless, rootless⟩

end Path

end GoWorkbench
