/-
  How imports are spelled, and what they mean.

  A specifier is joined to a directory and normalized before an ending is added to it.

  1. **Answers** — what an import means is in its normal form, unless the normal form of what was
     joined is a dot or two slashes and the ending adds a name to it (`resolve_normal`).  The
     directory of the process is such a dot (`resolve_strays`).
  2. **Dots** — a `./` before a specifier only keeps it from being looked up in the workspace; the
     directories that it is joined to do not tell it from the specifier alone (`resolve_dotted`).
-/
import GoWorkbench.Proofs.Imports.Aliases
import GoWorkbench.Proofs.Path.Normal

namespace GoWorkbench.Imports

open FileSystem GoWorkbench.Path

variable {fs : FileSystem} {base specifier file : String} {root : Option String}

/-! ## Answers -/

/-- What an import means is a candidate. -/
theorem mem_candidates_of_resolve (found : resolve fs base specifier root = some file) :
    file ∈ candidates base specifier root := by
  have some_specifier : specifier ≠ "" := by
    rintro rfl
    cases found
  rw [resolve_eq_find fs base some_specifier] at found
  exact List.mem_of_find?_eq_some found

/-- **Answers**: what an import means is the normal form of the specifier in one of its directories,
    with an ending.  This is in its normal form again, unless a name is added to a dot or to two
    slashes, and then it is two characters too long. -/
theorem resolve_normal (found : resolve fs base specifier root = some file) :
    ∃ directory ∈ directories base specifier root, ∃ ending ∈ endings,
      file = normalize (join directory (nameOf specifier)) ++ ending ∧
      (normalize file = file ↔
        ¬ Stray (normalize (join directory (nameOf specifier))) ending) ∧
      (Stray (normalize (join directory (nameOf specifier))) ending →
        normalize file = String.ofList (file.toList.drop 2)) := by
  obtain ⟨directory, among, ends⟩ := List.mem_flatMap.mp (mem_candidates_of_resolve found)
  obtain ⟨ending, mem, rfl⟩ := List.mem_map.mp ends
  have normal := normalize_append_iff
    (normalize_normalize (join directory (nameOf specifier))) (ending_of_mem mem)
  exact ⟨directory, among, ending, mem, rfl, normal⟩

/-- A specifier that goes up and down and up again is found beside the workspace. -/
theorem resolve_normal_winding :
    resolve fringed "/w/ws/m.go" "./../ws//.././x" (some "/w/ws") = some "/w/x.go" ∧
      normalize "/w/x.go" = "/w/x.go" := by
  have x : LeadsTo "/w/x" (["w"] ++ ["x"]) := ⟨rfl, rfl, by decide⟩
  have x_go : LeadsTo "/w/x.go" ["w", "x.go"] := ⟨rfl, rfl, by decide⟩
  have no_x : ¬ fringed.HasFile "/w/x" := not_hasFile_of_vacant
    (x.reach_vacant (x.passable (by decide) (by decide)) (by decide) ⟨_, rfl⟩ rfl)
  have there := hasFile_fringed x_go (x_go.passable (by decide) (by decide)) (by decide) rfl
  have found : resolve fringed "/w/ws/m.go" "./../ws//.././x" (some "/w/ws") = some "/w/x.go" :=
    resolve_of_second (by decide) rfl no_x there
  obtain ⟨directory, among, ending, mem, is, normal, -⟩ := resolve_normal found
  refine ⟨found, normal.mpr fun stray => ?_⟩
  -- the one directory is that of the importing file
  obtain rfl : directory = "/w/ws" := List.mem_singleton.mp among
  exact absurd stray.1 (by decide)

/-- A file in the directory of the process, which is the root. -/
def indexed : FileSystem := ⟨[("index.go", .file [] false)], .root⟩

/-- A path is looked up in the root, wherever it starts. -/
theorem reach_indexed {path : String} (passable : Passable path) (some_path : path ≠ "") :
    indexed.reach .look path =
      indexed.walk .look (endsInSlash path) maxLinks .root (components path) := by
  rw [reach_of_passable passable.no_nul some_path passable.short]
  cases Path.isAbsolute path <;> rfl

/-- The first seven endings make no name that is there. -/
theorem not_hasFile_indexed {path name : String} (passable : Passable path)
    (parts : components path = [name]) (plain : endsInSlash path = false)
    (isName : Entry.IsName name) (other : name ≠ "index.go") : ¬ indexed.HasFile path := by
  have some_path : path ≠ "" := by
    rintro rfl
    cases parts
  have short : ∀ n ∈ ([] : List String) ++ [name], n.utf8ByteSize ≤ maxName := by
    have names := passable.names
    rwa [parts] at names
  have free : Entry.at? [name] indexed.entries = none := by
    show List.lookup name [("index.go", _)] = none
    rw [List.lookup_cons, beq_false_of_ne other]
    rfl
  have vacant : indexed.reach .look path = .ok (.vacant .root name) := by
    rw [reach_indexed passable some_path, parts, plain]
    exact walk_vacant Entry.dirAt_nil (List.forall_mem_singleton.mpr isName) short free
  exact not_hasFile_of_vacant vacant

theorem not_hasFile_of_root {path : String} (passable : Passable path) (some_path : path ≠ "")
    (walks : indexed.walk .look (endsInSlash path) maxLinks .root (components path) =
      .ok (.object .root (.directory indexed.entries))) : ¬ indexed.HasFile path := by
  rintro ⟨location, entry, found, leaf⟩
  have reaches := reach_of_find found
  rw [reach_indexed passable some_path, walks] at reaches
  cases reaches
  exact leaf _ rfl

theorem hasFile_indexed {path : String} (passable : Passable path) (some_path : path ≠ "")
    (plain : endsInSlash path = false)
    (parts : components path = ["index.go"] ∨ components path = [".", "index.go"]) :
    indexed.HasFile path := by
  have walks : indexed.walk .look false maxLinks .root ["index.go"] =
      .ok (.object ⟨["index.go"], 0⟩ (.file [] false)) :=
    walk_names (fun _ => rfl) Entry.dirAt_nil (by decide) (by decide) rfl (fits_file _ _)
  have reaches : indexed.reach .look path = .ok (.object ⟨["index.go"], 0⟩ (.file [] false)) := by
    rw [reach_indexed passable some_path, plain]
    rcases parts with parts | parts
    · rw [parts, walks]
    · rw [parts, walk, if_pos rfl, walks]
  refine ⟨⟨["index.go"], 0⟩, .file [] false, ?_, fun _ h => Entry.noConfusion h⟩
  unfold FileSystem.find
  rw [reaches]

/-- Where only the eighth candidate is a file, a dot means that. -/
theorem resolve_indexed {top : String} (is : candidates base "." none = withEndings top)
    (not_top : ¬ indexed.HasFile top)
    (not_longer : ∀ ending ∈ [".go", ".ts", ".tsx", ".js", ".jsx", ".json"],
      ¬ indexed.HasFile (top ++ ending))
    (there : indexed.HasFile (top ++ "/index.go")) :
    resolve indexed base "." none = some (top ++ "/index.go") := by
  have first : indexed.First (candidates base "." none) (top ++ "/index.go") := by
    refine ⟨(withEndings top).take 7, (withEndings top).drop 8, is, there, ?_⟩
    intro other mem
    have among : other ∈ (top ++ "") ::
        [".go", ".ts", ".tsx", ".js", ".jsx", ".json"].map (top ++ ·) := mem
    rcases List.mem_cons.mp among with rfl | mem
    · rwa [String.append_empty]
    · obtain ⟨ending, listed, rfl⟩ := List.mem_map.mp mem
      exact not_longer ending listed
  rw [resolve_eq_find indexed base (by decide), first_iff.mp first]

/-- **Answers out of form**: the directory of the process is a dot, and the slashes of the root may
    be two. -/
theorem resolve_strays :
    (resolve indexed "m.go" "." none = some "./index.go" ∧
      normalize "./index.go" ≠ "./index.go") ∧
    resolve indexed "//m.go" "." none = some "///index.go" ∧
      normalize "///index.go" ≠ "///index.go" := by
  have one_name : ∀ top ∈ [".", "//"], ∀ ending ∈ [".go", ".ts", ".tsx", ".js", ".jsx", ".json"],
      '\x00' ∉ (top ++ ending).toList ∧ (top ++ ending).utf8ByteSize ≤ maxPath ∧
      (∀ n ∈ components (top ++ ending), n.utf8ByteSize ≤ maxName) ∧
      endsInSlash (top ++ ending) = false ∧ ∃ name, components (top ++ ending) = [name] ∧
        Entry.IsName name ∧ name ≠ "index.go" := by
    intro top mem ending mem'
    simp only [List.mem_cons, List.not_mem_nil, or_false] at mem mem'
    rcases mem with rfl | rfl <;> rcases mem' with rfl | rfl | rfl | rfl | rfl | rfl
    all_goals exact ⟨by decide, by decide, by decide, by decide, _, rfl, by decide, by decide⟩
  have not_longer : ∀ top ∈ [".", "//"], ∀ ending ∈ [".go", ".ts", ".tsx", ".js", ".jsx", ".json"],
      ¬ indexed.HasFile (top ++ ending) := by
    intro top mem ending mem'
    obtain ⟨no_nul, short, names, plain, name, parts, isName, other⟩ := one_name top mem ending mem'
    exact not_hasFile_indexed ⟨no_nul, short, names⟩ parts plain isName other
  have dot : resolve indexed "m.go" "." none = some ("." ++ "/index.go") := by
    refine resolve_indexed rfl ?_ (not_longer "." (by decide)) ?_
    · refine not_hasFile_of_root ⟨by decide, by decide, by decide⟩ (by decide) ?_
      rw [show components "." = ["."] from rfl, walk, if_pos rfl, walk]
      rfl
    · exact hasFile_indexed ⟨by decide, by decide, by decide⟩ (by decide) (by decide) (.inr rfl)
  have slashes : resolve indexed "//m.go" "." none = some ("//" ++ "/index.go") := by
    refine resolve_indexed rfl ?_ (not_longer "//" (by decide)) ?_
    · refine not_hasFile_of_root ⟨by decide, by decide, by decide⟩ (by decide) ?_
      rw [show components "//" = [] from rfl, walk]
      rfl
    · exact hasFile_indexed ⟨by decide, by decide, by decide⟩ (by decide) (by decide) (.inl rfl)
  exact ⟨⟨dot, by decide⟩, slashes, by decide⟩

/-! ## Dots -/

/-- A specifier with a dot is looked up beside the importing file only. -/
theorem resolve_relative (relative : isRelative specifier = true) :
    resolve fs base specifier root = firstIn fs (directory base) specifier := by
  have some_specifier : ¬ specifier.isEmpty = true := fun none => by
    rw [String.isEmpty_iff.mp none] at relative
    cases relative
  unfold resolve
  rw [if_neg some_specifier, if_pos relative]

/-- And one without a mark is looked up in the workspace too, if there is one. -/
theorem resolve_bare (some_specifier : specifier ≠ "") (undotted : isRelative specifier = false)
    (unaliased : isAliased specifier = false) :
    resolve fs base specifier root = (firstIn fs (directory base) specifier).or
      ((root.filter fun r => !r.isEmpty).bind fun r => firstIn fs r specifier) := by
  unfold resolve
  rw [if_neg (by simpa using some_specifier), undotted, unaliased, if_neg Bool.false_ne_true,
    if_neg Bool.false_ne_true]
  cases firstIn fs (directory base) specifier <;> rfl

theorem firstIn_dotted (relative : isAbsolute specifier = false) (directory : String) :
    firstIn fs directory ("./" ++ specifier) = firstIn fs directory specifier := by
  unfold firstIn
  rw [normalize_join_dotted relative]

/-- **Dots**: a specifier with neither a dot, a slash nor an alias at its start means with a `./`
    before it what it means without a workspace.  If that is nothing, it means what it does with
    the `./` in the workspace, if there is one. -/
theorem resolve_dotted (some_specifier : specifier ≠ "") (undotted : isRelative specifier = false)
    (unrooted : isAbsolute specifier = false) (unaliased : isAliased specifier = false) :
    resolve fs base ("./" ++ specifier) root = resolve fs base specifier none ∧
    (∀ file, resolve fs base ("./" ++ specifier) root = some file →
      resolve fs base specifier root = some file) ∧
    (resolve fs base ("./" ++ specifier) root = none →
      (∀ r, root = some r → r ≠ "" → resolve fs base specifier root =
        firstFile fs (normalize (join r ("./" ++ specifier)))) ∧
      (root = none ∨ root = some "" → resolve fs base specifier root = none)) := by
  have dotted : isRelative ("./" ++ specifier) = true := by
    unfold isRelative
    rw [String.toList_append]
    rfl
  rw [resolve_relative dotted, firstIn_dotted unrooted]
  simp only [resolve_bare some_specifier undotted unaliased]
  refine ⟨?_, ?_, ?_⟩
  · rw [Option.filter_none, Option.bind_none, Option.or_none]
  · intro file beside
    rw [beside, Option.some_or]
  · intro beside
    rw [beside, Option.none_or]
    refine ⟨?_, ?_⟩
    · rintro r rfl some_root
      rw [Option.filter_some_pos (by simpa using some_root), Option.bind_some,
        ← firstIn_dotted unrooted]
      rfl
    · rintro (rfl | rfl) <;> rfl

/-- A specifier that winds, and is found beside the importing file. -/
theorem resolve_dotted_winding : "a/.././lib" ≠ "" ∧ isRelative "a/.././lib" = false ∧
    isAbsolute "a/.././lib" = false ∧ isAliased "a/.././lib" = false ∧
    resolve fringed "/w/ws/m.go" "./a/.././lib" (some "/w") = some "/w/ws/lib.go" ∧
    resolve fringed "/w/ws/m.go" "a/.././lib" none = some "/w/ws/lib.go" ∧
    resolve fringed "/w/ws/m.go" "a/.././lib" (some "/w") = some "/w/ws/lib.go" := by
  have lib : LeadsTo "/w/ws/lib" (["w", "ws"] ++ ["lib"]) := ⟨rfl, rfl, by decide⟩
  have lib_go : LeadsTo "/w/ws/lib.go" ["w", "ws", "lib.go"] := ⟨rfl, rfl, by decide⟩
  have no_lib : ¬ fringed.HasFile "/w/ws/lib" := not_hasFile_of_vacant
    (lib.reach_vacant (lib.passable (by decide) (by decide)) (by decide) ⟨_, rfl⟩ rfl)
  have there := hasFile_fringed lib_go (lib_go.passable (by decide) (by decide)) (by decide) rfl
  have found : resolve fringed "/w/ws/m.go" "./a/.././lib" (some "/w") = some "/w/ws/lib.go" :=
    resolve_of_second (by decide) rfl no_lib there
  obtain ⟨alone, beside, -⟩ := @resolve_dotted fringed "/w/ws/m.go" "a/.././lib" (some "/w")
    (by decide) rfl rfl rfl
  exact ⟨by decide, rfl, rfl, rfl, found, alone.symm.trans found, beside _ found⟩

end GoWorkbench.Imports
