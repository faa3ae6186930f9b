/-
  An import means the first file among its candidates.

  The files that a specifier may mean are a list of paths that no file system has a part in.

  1. **Files** — what counts as a file: something that is no directory, links followed
     (`isRegular_iff`).
  2. **Candidates** — the directories that a specifier is looked up in, and in each of them a path
     with every ending; the directories in turn are the candidates in a row (`resolve_eq_find`).
  3. **The first one** — so the first candidate that is a file is what the import means, whatever
     the paths after it are; and a file that is added can only come before it
     (`resolve_first`).
-/
import GoWorkbench.Imports
import GoWorkbench.Proofs.FileSystem.Keeping

namespace GoWorkbench

/-! ## Files -/

namespace FileSystem

variable {fs fs' : FileSystem} {path : String}

/-- The path leads to something that is no directory, links followed. -/
def HasFile (fs : FileSystem) (path : String) : Prop :=
  ∃ location entry, fs.find path = .ok (location, entry) ∧ ∀ inner, entry ≠ .directory inner

theorem isRegular_iff : fs.isRegular path = true ↔ fs.HasFile path := by
  unfold isRegular existsAt isDirectory HasFile
  rcases fs.find path with trouble | ⟨location, entry⟩
  · refine ⟨fun h => Bool.noConfusion h, fun ⟨_, _, found, _⟩ => ?_⟩
    cases found
  · cases entry with
    | directory inner =>
      refine ⟨fun h => Bool.noConfusion h, fun ⟨_, _, found, leaf⟩ => ?_⟩
      cases found
      exact absurd rfl (leaf inner)
    | file | link =>
      exact ⟨fun _ => ⟨location, _, rfl, fun _ h => Entry.noConfusion h⟩, fun _ => rfl⟩

/-- The file is the first of the paths that leads to one. -/
def First (fs : FileSystem) (paths : List String) (file : String) : Prop :=
  ∃ before after, paths = before ++ file :: after ∧ fs.HasFile file ∧
    ∀ other ∈ before, ¬ fs.HasFile other

theorem first_iff {paths : List String} {file : String} :
    fs.First paths file ↔ paths.find? fs.isRegular = some file := by
  rw [List.find?_eq_some_iff_append, isRegular_iff]
  simp only [Bool.not_eq_true', Bool.eq_false_iff, ne_eq, isRegular_iff]
  constructor
  · rintro ⟨before, after, is, there, none_before⟩
    exact ⟨there, before, after, is, none_before⟩
  · rintro ⟨there, before, after, is, none_before⟩
    exact ⟨before, after, is, there, none_before⟩

/-- A file stays one when others are added. -/
theorem Adds.hasFile (adds : Adds fs fs') (there : fs.HasFile path) : fs'.HasFile path := by
  obtain ⟨location, entry, found, leaf⟩ := there
  obtain ⟨entry', found', kept⟩ := adds.find found
  cases kept with
  | same is =>
    cases is
    exact ⟨location, entry, found', leaf⟩
  | directory => exact absurd rfl (leaf _)

end FileSystem

namespace Imports

open FileSystem

variable {fs : FileSystem} {base specifier directory name : String} {root : Option String}

/-! ## Candidates -/

/-- The workspace root, unless it is empty. -/
def roots (root : Option String) : List String := root.toList.filter fun r => !r.isEmpty

/-- The directories that a specifier is looked up in, best first. -/
def directories (base specifier : String) (root : Option String) : List String :=
  if isRelative specifier then [Path.directory base]
  else if isAliased specifier then (roots root).flatMap fun r => [r, Path.join r "src"]
  else Path.directory base :: roots root

/-- What is looked up in them: the specifier, without an alias. -/
def nameOf (specifier : String) : String :=
  if isAliased specifier then bareName specifier else specifier

/-- The paths that a specifier may mean, best first. -/
def candidates (base specifier : String) (root : Option String) : List String :=
  (directories base specifier root).flatMap fun directory =>
    withEndings (Path.normalize (Path.join directory (nameOf specifier)))

/-- What begins with a dot does not begin with an alias. -/
theorem not_isAliased (relative : isRelative specifier = true) : isAliased specifier = false := by
  unfold isRelative at relative
  unfold isAliased
  rw [decide_eq_true_eq, List.head?_eq_some_iff] at relative
  obtain ⟨rest, is⟩ := relative
  rw [is]
  rfl

/-- The candidates in one directory are looked at by `firstIn`. -/
theorem find_flatMap (fs : FileSystem) (name directory : String) (more : List String) :
    ((directory :: more).flatMap fun d => withEndings (Path.normalize (Path.join d name))).find?
        fs.isRegular =
      (firstIn fs directory name).or
        ((more.flatMap fun d => withEndings (Path.normalize (Path.join d name))).find?
          fs.isRegular) := by
  rw [List.flatMap_cons, List.find?_append]
  rfl

/-- **Candidates**: looking into one directory after the other is looking at one candidate after
    the other. -/
theorem resolve_eq_find (fs : FileSystem) (base : String) (some_specifier : specifier ≠ "")
    (root : Option String) :
    resolve fs base specifier root = (candidates base specifier root).find? fs.isRegular := by
  have nonempty : specifier.isEmpty = false :=
    Bool.eq_false_iff.mpr fun h => some_specifier (String.isEmpty_iff.mp h)
  unfold resolve candidates directories
  rw [if_neg (Bool.eq_false_iff.mp nonempty)]
  by_cases relative : isRelative specifier = true
  · rw [if_pos relative, if_pos relative, find_flatMap, List.flatMap_nil, List.find?_nil,
      Option.or_none]
    unfold nameOf
    rw [not_isAliased relative]
    rfl
  rw [if_neg relative, if_neg relative]
  -- an empty root is no root, here as there
  have kept : (root.filter fun r => !r.isEmpty) = none ∧ roots root = [] ∨
      ∃ r, (root.filter fun r => !r.isEmpty) = some r ∧ roots root = [r] := by
    unfold roots
    rcases root with _ | r
    · exact .inl ⟨rfl, rfl⟩
    · cases empty : r.isEmpty <;> simp [Option.filter, empty]
  unfold nameOf
  by_cases aliased : isAliased specifier = true
  · rw [if_pos aliased, if_pos aliased, if_pos aliased]
    obtain ⟨no_root, is⟩ | ⟨r, is_root, is⟩ := kept
    · rw [no_root, is]
      rfl
    · rw [is_root, is, List.flatMap_singleton, find_flatMap, find_flatMap, List.flatMap_nil,
        List.find?_nil, Option.or_none, Option.bind_some]
  · rw [if_neg aliased, if_neg aliased, if_neg aliased, find_flatMap]
    obtain ⟨no_root, is⟩ | ⟨r, is_root, is⟩ := kept
    · rw [no_root, is]
      cases firstIn fs (Path.directory base) specifier <;> rfl
    · rw [is_root, is, find_flatMap, List.flatMap_nil, List.find?_nil, Option.or_none]
      cases firstIn fs (Path.directory base) specifier <;> rfl

/-! ## The first one -/

/-- The candidates up to the answer, all of them if there is none. -/
def tried (answer : Option String) (candidates : List String) : List String :=
  match answer with
  | some file => candidates.take (candidates.idxOf file + 1)
  | none => candidates

/-- What is found is where the test has last looked. -/
theorem find?_congr_tried {among : List String} {p q : String → Bool}
    (same : ∀ file ∈ tried (among.find? p) among, q file = p file) :
    among.find? q = among.find? p := by
  induction among with
  | nil => rfl
  | cons first rest ih =>
    cases passes : p first with
    | true =>
      rw [List.find?_cons_of_pos passes] at same ⊢
      have first_tried : first ∈ tried (some first) (first :: rest) := by simp [tried]
      rw [List.find?_cons_of_pos ((same first first_tried).trans passes)]
    | false =>
      have fails : ¬ p first = true := Bool.eq_false_iff.mp passes
      rw [List.find?_cons_of_neg fails] at same ⊢
      -- the first one has been tried, and then what is tried among the rest
      have is : tried (rest.find? p) (first :: rest) = first :: tried (rest.find? p) rest := by
        cases found : rest.find? p with
        | none => rfl
        | some file =>
          have other : first ≠ file := by
            rintro rfl
            exact fails (List.find?_some found)
          simp [tried, List.idxOf_cons, beq_false_of_ne other]
      rw [is] at same
      have fails' : ¬ q first = true := by
        rw [same first List.mem_cons_self]
        exact fails
      rw [List.find?_cons_of_neg fails']
      exact ih fun file h => same file (List.mem_cons_of_mem _ h)

/-- What passes a weaker test is found no later. -/
theorem find?_mono {among : List String} {p q : String → Bool} {file : String}
    (weaker : ∀ file, p file = true → q file = true) (found : among.find? p = some file) :
    ∃ file', among.find? q = some file' ∧ among.idxOf file' ≤ among.idxOf file := by
  obtain ⟨passes, before, after, rfl, fail⟩ := List.find?_eq_some_iff_append.mp found
  have not_before : file ∉ before := fun h => by
    have fails := fail file h
    rw [passes] at fails
    cases fails
  have place : (before ++ file :: after).idxOf file = before.length := by
    rw [List.idxOf_append, if_neg not_before, List.idxOf_cons_self, Nat.zero_add]
  rw [List.find?_append, List.find?_cons_of_pos (weaker file passes), place]
  cases earlier : before.find? q with
  | none => exact ⟨file, rfl, Nat.le_of_eq place⟩
  | some file' =>
    have there : file' ∈ before := List.mem_of_find?_eq_some earlier
    refine ⟨file', rfl, ?_⟩
    rw [List.idxOf_append, if_pos there]
    exact Nat.le_of_lt (List.idxOf_lt_length_of_mem there)

/-- **The first one**: an import means the first candidate that is a file, and nothing if none is.
    Only the candidates up to the answer have a part in it; and what an import meant, it means where
    files have been added, or else an earlier candidate. -/
theorem resolve_first (fs : FileSystem) (base : String) (some_specifier : specifier ≠ "")
    (root : Option String) :
    (∀ file, resolve fs base specifier root = some file ↔
      ∃ before after, candidates base specifier root = before ++ file :: after ∧
        fs.HasFile file ∧ ∀ other ∈ before, ¬ fs.HasFile other) ∧
    (resolve fs base specifier root = none ↔
      ∀ file ∈ candidates base specifier root, ¬ fs.HasFile file) ∧
    (∀ fs' : FileSystem,
      (∀ file ∈ tried (resolve fs base specifier root) (candidates base specifier root),
        fs'.HasFile file ↔ fs.HasFile file) →
      resolve fs' base specifier root = resolve fs base specifier root) ∧
    ∀ (fs' : FileSystem) (file : String), fs.Adds fs' →
      resolve fs base specifier root = some file →
      ∃ file', resolve fs' base specifier root = some file' ∧
        (candidates base specifier root).idxOf file' ≤
          (candidates base specifier root).idxOf file := by
  have finds := fun fs : FileSystem => resolve_eq_find fs base some_specifier root
  have no_file : ∀ path, (!fs.isRegular path) = true ↔ ¬ fs.HasFile path := fun path => by
    rw [← isRegular_iff, Bool.not_eq_true', Bool.not_eq_true]
  refine ⟨fun file => ?_, ?_, fun fs' same => ?_, fun fs' file adds found => ?_⟩
  · rw [finds fs, List.find?_eq_some_iff_append, isRegular_iff]
    simp only [no_file]
    constructor
    · rintro ⟨there, before, after, is, none_before⟩
      exact ⟨before, after, is, there, none_before⟩
    · rintro ⟨before, after, is, there, none_before⟩
      exact ⟨there, before, after, is, none_before⟩
  · rw [finds fs, List.find?_eq_none]
    simp only [isRegular_iff]
  · rw [finds fs] at same
    rw [finds fs', finds fs]
    refine find?_congr_tried fun file h => ?_
    rw [Bool.eq_iff_iff, isRegular_iff, isRegular_iff]
    exact same file h
  · rw [finds fs] at found
    rw [finds fs']
    refine find?_mono (fun path there => ?_) found
    exact isRegular_iff.mpr (adds.hasFile (isRegular_iff.mp there))

/-- A workspace with one file that an import can mean. -/
def shelf : FileSystem := ⟨[("w", .directory [("lib.ts", .file [] false)])], .root⟩

theorem orderly_shelf : shelf.Orderly := by
  refine Sound.orderly ⟨?_, linkFree_of_countLinks (by simp [shelf, countLinks]),
    stands_root _, by decide⟩
  simp only [shelf, Entry.Proper]
  decide

/-- What is not there is no file. -/
theorem not_hasFile_of_vacant {path : String} {parent : Place}
    (vacant : fs.reach .look path = .ok (.vacant parent name)) : ¬ fs.HasFile path := by
  rintro ⟨location, entry, found, -⟩
  rw [reach_of_find found] at vacant
  cases vacant

/-- The file `lib.ts` is what `lib` means, and where a `lib.go` is made, what is found is no later
    candidate. -/
theorem resolve_first_lib : "lib" ≠ "" ∧
    resolve shelf "/w/a.go" "lib" (some "/w") = some "/w/lib.ts" ∧
    ∃ more, shelf.createNew "/w/lib.go" [] = .ok more ∧
      ∃ file, resolve more "/w/a.go" "lib" (some "/w") = some file ∧
        (candidates "/w/a.go" "lib" (some "/w")).idxOf file ≤ 2 := by
  have lib : LeadsTo "/w/lib" (["w"] ++ ["lib"]) := ⟨rfl, rfl, by decide⟩
  have lib_go : LeadsTo "/w/lib.go" (["w"] ++ ["lib.go"]) := ⟨rfl, rfl, by decide⟩
  have lib_ts : LeadsTo "/w/lib.ts" (["w"] ++ ["lib.ts"]) := ⟨rfl, rfl, by decide⟩
  have no_lib : ¬ shelf.HasFile "/w/lib" := not_hasFile_of_vacant
    (lib.reach_vacant (lib.passable (by decide) (by decide)) (by decide) ⟨_, rfl⟩ rfl)
  have passable_go : Passable "/w/lib.go" := lib_go.passable (by decide) (by decide)
  have no_lib_go : ¬ shelf.HasFile "/w/lib.go" := not_hasFile_of_vacant
    (lib_go.reach_vacant passable_go (by decide) ⟨_, rfl⟩ rfl)
  have there : shelf.HasFile "/w/lib.ts" :=
    ⟨_, _, lib_ts.find (lib_ts.passable (by decide) (by decide))
      (rfl : Entry.at? ["w", "lib.ts"] shelf.entries = some (.file [] false)) (fits_file _ _),
      fun _ h => Entry.noConfusion h⟩
  have creates : shelf.createNew "/w/lib.go" [] =
      .ok (shelf.put ["w", "lib.go"] (.file [] false)) := by
    unfold createNew
    rw [lib_go.reach_vacant passable_go (by decide) ⟨_, rfl⟩ rfl]
    rfl
  obtain ⟨first, -, -, more⟩ :=
    resolve_first shelf "/w/a.go" (by decide : "lib" ≠ "") (some "/w")
  have found : resolve shelf "/w/a.go" "lib" (some "/w") = some "/w/lib.ts" :=
    (first "/w/lib.ts").mpr ⟨["/w/lib", "/w/lib.go"],
      (candidates "/w/a.go" "lib" (some "/w")).drop 3, rfl, there, by
        simp only [List.mem_cons, List.not_mem_nil, or_false]
        rintro other (rfl | rfl)
        · exact no_lib
        · exact no_lib_go⟩
  refine ⟨by decide, found, _, creates, ?_⟩
  exact more _ "/w/lib.ts" (adds_of_createNew orderly_shelf (by decide) creates) found

end Imports

end GoWorkbench
