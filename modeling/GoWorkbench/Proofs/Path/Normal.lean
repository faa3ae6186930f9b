/-
  Normal forms of paths.

  A normal form is made of the slashes at its start, of `..` where there are no such slashes, and of
  names; a path that comes to nothing is a dot.

  1. **Kept lists** — what collapsing has kept is a number of `..`, none in a path from the root, and
     then names (`Kept.foldl_push`).  Collapsing leaves such a list as it is (`Kept.collapse_eq`).
  2. **Normal forms** — so a path that is put together from one is its own normal form
     (`Formed.normalize_eq`), and every normal form is put together so, or is a dot
     (`formed_of_normal`).  Normal forms are the paths that normalizing leaves as they are
     (`normalize_normalize`).
  3. **Dots** — what stands before a relative path is normalized alike with a dot after it
     (`normalize_join_dotted`).
  4. **Endings** — text after a normal form gives a normal form again, unless it begins with a slash
     and follows a dot or two slashes (`normalize_append_iff`).
-/
import GoWorkbench.Proofs.Path.Below

namespace GoWorkbench.Path

open FileSystem

variable {rooted : Bool} {path root directory rest name last ending : String} {names : List String}

/-! ## Kept lists -/

/-- What collapsing may have kept, the last component first. -/
inductive Kept (rooted : Bool) : List String → Prop
  | ups (count : Nat) (none : rooted = true → count = 0) : Kept rooted (List.replicate count "..")
  | name {name : String} {names : List String} (before : Kept rooted names) (solid : Solid name) :
      Kept rooted (name :: names)

theorem kept_nil : Kept rooted [] := .ups 0 fun _ => rfl

theorem Kept.of_solid (solid : ∀ n ∈ names, Solid n) : Kept rooted names := by
  induction names with
  | nil => exact kept_nil
  | cons name names ih =>
    obtain ⟨first, solid⟩ := List.forall_mem_cons.mp solid
    exact .name (ih solid) first

/-- What is kept before the last component. -/
theorem Kept.before (kept : Kept rooted (last :: names)) : Kept rooted names := by
  generalize is : last :: names = all at kept
  cases kept with
  | ups count none =>
    cases count with
    | zero => cases is
    | succ count =>
      rw [List.replicate_succ] at is
      cases is
      exact .ups count fun from_root => absurd (none from_root) (Nat.succ_ne_zero count)
  | name before solid =>
    cases is
    exact before

/-- What is kept is no dot and not empty. -/
theorem Kept.not_dot (kept : Kept rooted names) : ∀ n ∈ names, n ≠ "" ∧ n ≠ "." := by
  induction kept with
  | ups count none =>
    intro n hn
    rw [List.eq_of_mem_replicate hn]
    decide
  | name before solid ih => exact List.forall_mem_cons.mpr ⟨⟨solid.1, solid.2.1⟩, ih⟩

/-- One component more leaves a kept list. -/
theorem Kept.push (kept : Kept rooted names) (component : String) :
    Kept rooted (Path.push rooted names component) := by
  by_cases skipped : component = "" ∨ component = "."
  · rw [push_skipped skipped]
    exact kept
  rw [not_or] at skipped
  by_cases up : component = ".."
  · subst up
    cases kept with
    | ups count none =>
      cases count with
      | zero =>
        cases rooted
        · exact .ups 1 nofun
        · exact kept_nil
      | succ count =>
        -- there is a `..` to follow, so the path is not from the root
        exact .ups (count + 2) fun from_root => absurd (none from_root) (Nat.succ_ne_zero count)
    | name before solid =>
      rw [push_up solid.2.2]
      exact before
  · have solid : Solid component := ⟨skipped.1, skipped.2, up⟩
    rw [push_solid solid]
    exact .name kept solid

/-- **Kept lists** are what collapsing comes to. -/
theorem Kept.foldl_push (kept : Kept rooted names) (components : List String) :
    Kept rooted (components.foldl (Path.push rooted) names) := by
  induction components generalizing names with
  | nil => exact kept
  | cons component rest ih => exact ih (kept.push component)

theorem foldl_push_ups (count more : Nat) :
    (List.replicate more "..").foldl (push false) (List.replicate count "..") =
      List.replicate (count + more) ".." := by
  induction more generalizing count with
  | zero => rfl
  | succ more ih =>
    have is : push false (List.replicate count "..") ".." = List.replicate (count + 1) ".." := by
      cases count <;> rfl
    rw [List.replicate_succ, List.foldl_cons, is, ih, Nat.add_right_comm, Nat.add_assoc]

/-- Collapsing leaves a kept list as it is. -/
theorem Kept.collapse_eq (kept : Kept rooted names) :
    collapse rooted names.reverse = names.reverse := by
  unfold collapse
  rw [List.reverse_inj]
  induction kept with
  | ups count none =>
    cases rooted with
    | true =>
      rw [none rfl]
      rfl
    | false =>
      have all := foldl_push_ups 0 count
      rw [List.replicate_zero, Nat.zero_add] at all
      rw [List.reverse_replicate, all]
  | name before solid ih =>
    rw [List.reverse_cons, List.foldl_append, ih, List.foldl_cons, List.foldl_nil, push_solid solid]

/-! ## Normal forms -/

/-- What stands before a relative path says which slashes there are at the start. -/
theorem rootOf_append_relative (relative : isAbsolute rest = false) (front : String) :
    rootOf (front ++ rest) = rootOf front := by
  unfold isAbsolute at relative
  unfold rootOf
  rw [String.toList_append]
  rcases is_rest : rest.toList with _ | ⟨first, more⟩
  · rw [List.append_nil]
  have other : first ≠ '/' := by
    rintro rfl
    rw [is_rest] at relative
    cases relative
  -- no more than three characters are looked at, and what is no slash ends the slashes
  rcases front.toList with _ | ⟨c, _ | ⟨d, _ | ⟨e, text⟩⟩⟩
  · simp [other]
  · by_cases hc : c = '/' <;> simp [hc, other]
  · by_cases hc : c = '/' <;> by_cases hd : d = '/' <;> simp [hc, hd, other]
  · by_cases hc : c = '/' <;> by_cases hd : d = '/' <;> by_cases he : e = '/' <;> simp [hc, hd, he]

/-- The slashes at the start and the components say what the normal form is, and dots have no part
    in it. -/
theorem normalize_congr {path path' : String} (roots : rootOf path = rootOf path')
    (same : ∀ rooted, collapse rooted (parts path) = collapse rooted (parts path')) :
    normalize path = normalize path' := by
  unfold normalize
  dsimp only
  rw [roots, same]

theorem collapse_components (rooted : Bool) (path : String) :
    collapse rooted (parts path) = collapse rooted (components path) := by
  have skips : ∀ names : List String, (parts path).foldl (push rooted) names =
      (components path).foldl (push rooted) names := by
    unfold components
    induction parts path with
    | nil => exact fun _ => rfl
    | cons part more ih =>
      intro names
      rw [List.filter_cons, List.foldl_cons]
      by_cases empty : part = ""
      · rw [if_neg (by simp [empty]), push_skipped (.inl empty), ih]
      · rw [if_pos (by simp [empty]), List.foldl_cons, ih]
  unfold collapse
  rw [skips]

/-- What a normal form is made of: the slashes at its start, and names that are kept. -/
structure Formed (root : String) (names : List String) : Prop where
  slashes : root = "" ∨ root = "/" ∨ root = "//"
  kept : Kept (!root.isEmpty) names.reverse
  no_slash : ∀ n ∈ names, '/' ∉ n.toList

theorem formed (path : String) :
    Formed (rootOf path) (collapse (!(rootOf path).isEmpty) (parts path)) where
  slashes := by
    obtain ⟨-, h | h⟩ | ⟨-, h⟩ := rootOf_cases path
    · exact .inr (.inl h)
    · exact .inr (.inr h)
    · exact .inl h
  kept := by
    unfold collapse
    rw [List.reverse_reverse]
    exact kept_nil.foldl_push _
  no_slash := fun _ mem => no_slash_of_mem_collapse mem

theorem Formed.relative (formed : Formed root names) : isAbsolute (slashed names) = false := by
  cases names with
  | nil => rfl
  | cons first more =>
    have some_text : first ≠ "" :=
      (formed.kept.not_dot first (List.mem_reverse.mpr List.mem_cons_self)).1
    exact isAbsolute_slashed some_text (formed.no_slash first List.mem_cons_self) more

/-- **Normal forms**: what is put together so is left as it is, or is nothing and becomes a dot. -/
theorem Formed.normalize_eq (formed : Formed root names) :
    normalize (root ++ slashed names) =
      if (root ++ slashed names).isEmpty then "." else root ++ slashed names := by
  have is_root : rootOf root = root := by rcases formed.slashes with rfl | rfl | rfl <;> rfl
  have nonempty : ∀ n ∈ names, n ≠ "" := fun n mem =>
    (formed.kept.not_dot n (List.mem_reverse.mpr mem)).1
  have collapsed : collapse (!root.isEmpty) (parts (root ++ slashed names)) = names := by
    have named : components (rootOf root ++ slashed names) = names := by
      rw [components_rootOf, components_slashed nonempty formed.no_slash]
    have left := formed.kept.collapse_eq
    rw [List.reverse_reverse] at left
    rw [collapse_components, ← is_root, named, is_root, left]
  unfold normalize
  dsimp only
  rw [rootOf_append_relative formed.relative, is_root, collapsed]

theorem normalize_eq (path : String) :
    normalize path = "." ∨ ∃ root names, Formed root names ∧ root ++ slashed names ≠ "" ∧
      normalize path = root ++ slashed names := by
  by_cases none : (rootOf path ++
      slashed (collapse (!(rootOf path).isEmpty) (parts path))).isEmpty = true
  · refine .inl ?_
    unfold normalize
    dsimp only
    rw [if_pos none]
  · refine .inr ⟨_, _, formed path, fun h => none (String.isEmpty_iff.mpr h), ?_⟩
    unfold normalize
    dsimp only
    rw [if_neg none]

theorem Formed.normal (formed : Formed root names) (some_text : root ++ slashed names ≠ "") :
    normalize (root ++ slashed names) = root ++ slashed names := by
  rw [formed.normalize_eq, if_neg fun none => some_text (String.isEmpty_iff.mp none)]

/-- **Normalizing** leaves what it has made. -/
theorem normalize_normalize (path : String) : normalize (normalize path) = normalize path := by
  obtain is | ⟨root, names, formed, some_text, is⟩ := normalize_eq path
  · rw [is]
    rfl
  · rw [is, formed.normal some_text]

/-- A path that is left as it is is a dot, or put together so. -/
theorem formed_of_normal (normal : normalize path = path) :
    path = "." ∨ ∃ root names, Formed root names ∧ root ++ slashed names ≠ "" ∧
      path = root ++ slashed names := by
  have is := normalize_eq path
  rwa [normal] at is

/-! ## Dots -/

theorem collapse_dot (rooted : Bool) (before after : List String) :
    collapse rooted (before ++ "." :: after) = collapse rooted (before ++ after) := by
  unfold collapse
  rw [List.foldl_append, List.foldl_append, List.foldl_cons]
  rfl

/-- The parts of what stands before a relative path come first. -/
theorem parts_base (directory : String) :
    ∃ before, ∀ rest, parts (base directory ++ rest) = before ++ parts rest := by
  by_cases none : directory = ""
  · refine ⟨[], fun rest => ?_⟩
    rw [none]
    show parts ("" ++ rest) = parts rest
    rw [String.empty_append]
  · obtain ⟨front, is, -⟩ := base_eq none
    refine ⟨parts front, fun rest => ?_⟩
    rw [is, parts_append]

/-- **Dots**: a `./` before a relative path changes nothing, wherever that is seen from. -/
theorem normalize_join_dotted (relative : isAbsolute rest = false) (directory : String) :
    normalize (join directory ("./" ++ rest)) = normalize (join directory rest) := by
  have dotted : isAbsolute ("./" ++ rest) = false := by
    rw [isAbsolute_append (by decide)]
    rfl
  rw [join_of_relative dotted, join_of_relative relative]
  apply normalize_congr
  · rw [rootOf_append_relative dotted, rootOf_append_relative relative]
  · intro rooted
    obtain ⟨before, first⟩ := parts_base directory
    have dot : parts ("./" ++ rest) = "." :: parts rest := parts_append "." rest
    rw [first, first, dot, collapse_dot]

/-! ## Endings -/

/-- A longer last name, or one where there is none. -/
theorem Formed.append_longer (formed : Formed root names) (long : 2 < ending.toList.length)
    (no_slash : '/' ∉ ending.toList) :
    ∃ names', Formed root names' ∧ root ++ slashed names ++ ending = root ++ slashed names' := by
  obtain ⟨slashes, kept, without⟩ := formed
  rcases List.eq_nil_or_concat names with none | ⟨front, last, is⟩
  · rw [none] at kept ⊢
    refine ⟨[ending], ⟨slashes, .name kept (solid_of_length long), ?_⟩, ?_⟩
    · exact List.forall_mem_singleton.mpr no_slash
    · rw [slashed_singleton, String.append_assoc]
      rfl
  · rw [List.concat_eq_append] at is
    rw [is] at kept without ⊢
    rw [List.forall_mem_append, List.forall_mem_singleton] at without
    have longer : 2 < (last ++ ending).toList.length := by
      rw [String.toList_append, List.length_append]
      omega
    refine ⟨front ++ [last ++ ending], ⟨slashes, ?_, ?_⟩, ?_⟩
    · rw [List.reverse_append] at kept ⊢
      exact .name kept.before (solid_of_length longer)
    · rw [List.forall_mem_append, List.forall_mem_singleton]
      refine ⟨without.1, fun slash => ?_⟩
      rw [String.toList_append] at slash
      exact (List.mem_append.mp slash).elim without.2 no_slash
    · rw [String.append_assoc, slashed_append_text]

/-- One name more, after some. -/
theorem Formed.append_name (formed : Formed root names) (some_name : names ≠ []) (solid : Solid name)
    (no_slash : '/' ∉ name.toList) :
    Formed root (names ++ [name]) ∧
      root ++ slashed names ++ ("/" ++ name) = root ++ slashed (names ++ [name]) := by
  refine ⟨⟨formed.slashes, ?_, ?_⟩, ?_⟩
  · rw [List.reverse_append]
    exact .name formed.kept solid
  · rw [List.forall_mem_append, List.forall_mem_singleton]
    exact ⟨formed.no_slash, no_slash⟩
  · rw [slashed_append some_name (List.cons_ne_nil _ _), slashed_singleton]
    simp only [String.append_assoc]

/-- A name with slashes before it, or without any. -/
theorem formed_name (slashes : root = "" ∨ root = "/" ∨ root = "//") (solid : Solid name)
    (no_slash : '/' ∉ name.toList) : Formed root [name] where
  slashes := slashes
  kept := .name kept_nil solid
  no_slash := List.forall_mem_singleton.mpr no_slash

theorem normalize_name (slashes : root = "" ∨ root = "/" ∨ root = "//") (solid : Solid name)
    (no_slash : '/' ∉ name.toList) : normalize (root ++ name) = root ++ name := by
  have normal := (formed_name slashes solid no_slash).normal
  rw [slashed_singleton] at normal
  exact normal fun none => solid.1 (String.append_eq_empty_iff.mp none).2

/-- A slash and a name after a dot or after two slashes: the first two characters go. -/
theorem normalize_stray (stray : path = "." ∨ path = "//") (solid : Solid name)
    (no_slash : '/' ∉ name.toList) : normalize (path ++ ("/" ++ name)) =
      String.ofList ((path ++ ("/" ++ name)).toList.drop 2) := by
  have relative : isAbsolute name = false := by
    rw [← slashed_singleton name]
    exact (formed_name (.inl rfl) solid no_slash).relative
  have alone : components name = [name] := by
    have named := components_slashed (List.forall_mem_singleton.mpr solid.1)
      (List.forall_mem_singleton.mpr no_slash)
    rwa [slashed_singleton] at named
  rcases stray with rfl | rfl
  · have same : normalize ("./" ++ name) = normalize name := by
      have dotted := normalize_join_dotted relative ""
      rwa [join_of_relative (by rw [isAbsolute_append (by decide)]; rfl), join_of_relative relative,
        show base "" = "" from rfl, String.empty_append, String.empty_append] at dotted
    have normal := normalize_name (.inl rfl) solid no_slash
    rw [String.empty_append] at normal
    rw [← String.append_assoc, show "." ++ "/" = "./" from rfl, same, normal, String.toList_append]
    exact String.ofList_toList.symm
  · have same : normalize ("///" ++ name) = normalize ("/" ++ name) := by
      apply normalize_congr
      · rw [rootOf_append_relative relative, rootOf_append_relative relative]
        rfl
      · intro rooted
        have three : components ("///" ++ name) = components name := components_append "//" name
        have one : components ("/" ++ name) = components name := components_append "" name
        rw [collapse_components, collapse_components, three, one]
    rw [← String.append_assoc, show "//" ++ "/" = "///" from rfl, same,
      normalize_name (.inr (.inl rfl)) solid no_slash, String.toList_append]
    show "/" ++ name = String.ofList ("/".toList ++ name.toList)
    rw [← String.toList_append, String.ofList_toList]

/-- Text without slashes gives a normal form again. -/
theorem normalize_longer (normal : normalize path = path) (long : 2 < ending.toList.length)
    (no_slash : '/' ∉ ending.toList) : normalize (path ++ ending) = path ++ ending := by
  obtain rfl | ⟨root, names, formed, -, rfl⟩ := formed_of_normal normal
  · have longer : 2 < ("." ++ ending).toList.length := by
      rw [String.toList_append, List.length_append]
      omega
    have without : '/' ∉ ("." ++ ending).toList := by
      rw [String.toList_append]
      simpa using no_slash
    have alone := normalize_name (.inl rfl) (solid_of_length longer) without
    rwa [String.empty_append] at alone
  · obtain ⟨names', formed', is⟩ := formed.append_longer long no_slash
    rw [is]
    refine formed'.normal fun none => ?_
    rw [none, String.append_eq_empty_iff] at is
    rw [is.2] at long
    exact absurd long (by decide)

/-- A slash and a name do, unless the slash is one too many. -/
theorem normalize_append_name (normal : normalize path = path)
    (in_place : ¬ (path = "." ∨ path = "//")) (solid : Solid name) (no_slash : '/' ∉ name.toList) :
    normalize (path ++ ("/" ++ name)) = path ++ ("/" ++ name) := by
  rw [not_or] at in_place
  obtain is | ⟨root, names, formed, some_text, rfl⟩ := formed_of_normal normal
  · exact absurd is in_place.1
  by_cases none : names = []
  · -- the slash of the root goes before that of the name
    subst none
    have is_root : root = "/" := by
      rcases formed.slashes with rfl | rfl | rfl
      · exact absurd rfl some_text
      · rfl
      · exact absurd rfl in_place.2
    subst is_root
    rw [← String.append_assoc]
    exact normalize_name (.inr (.inr rfl)) solid no_slash
  · obtain ⟨formed', is⟩ := formed.append_name none solid no_slash
    rw [is]
    refine formed'.normal fun empty => ?_
    rw [empty, String.append_eq_empty_iff] at is
    exact some_text is.1

/-- The path is a dot or two slashes, and a slash comes after it. -/
def Stray (path ending : String) : Prop :=
  (path = "." ∨ path = "//") ∧ ending.toList.head? = some '/'

/-- **Endings**: a normal form with an ending is one, but for a slash after a dot or after two
    slashes; there the first two characters are too many. -/
theorem normalize_append_iff (normal : normalize path = path) (ends : Ending ending) :
    (normalize (path ++ ending) = path ++ ending ↔ ¬ Stray path ending) ∧
      (Stray path ending →
        normalize (path ++ ending) = String.ofList ((path ++ ending).toList.drop 2)) := by
  cases ends with
  | nothing =>
    have in_place : ¬ Stray path "" := fun stray => absurd stray.2 (by decide)
    rw [String.append_empty]
    exact ⟨iff_of_true normal in_place, fun stray => absurd stray in_place⟩
  | longer long no_slash =>
    have in_place : ¬ Stray path ending := fun stray => no_slash (List.mem_of_head? stray.2)
    exact ⟨iff_of_true (normalize_longer normal long no_slash) in_place,
      fun stray => absurd stray in_place⟩
  | @name name solid no_slash =>
    by_cases stray : path = "." ∨ path = "//"
    · have slash : ("/" ++ name).toList.head? = some '/' := by
        rw [String.toList_append]
        rfl
      have is := normalize_stray stray solid no_slash
      refine ⟨iff_of_false (fun same => ?_) fun h => h ⟨stray, slash⟩, fun _ => is⟩
      -- the normal form is shorter
      rw [is] at same
      have lengths := congrArg (fun s : String => s.toList.length) same
      simp only [String.toList_ofList, List.length_drop, String.toList_append,
        List.length_append] at lengths
      have one : ("/" : String).toList.length = 1 := rfl
      omega
    · exact ⟨iff_of_true (normalize_append_name normal stray solid no_slash) fun h => stray h.1,
        fun h => absurd h.1 stray⟩

end GoWorkbench.Path
