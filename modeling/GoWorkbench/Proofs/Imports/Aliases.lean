/-
  Where imports with an alias lead.

  What follows `@/` is joined to the workspace, and to its `src`, as any path is.

  1. **Endings** — every ending of a candidate is one that the names of a path are told by
     (`ending_of_mem`).
  2. **Aliases** — so what such an import means lies below the workspace just if what is joined
     does, but for files that the workspace itself is extended to; and it does if the text after
     `@/` is an inward path (`alias_below`).
  3. **Escapes** — a text that goes up, starts at the root or is empty leads out of the workspace
     (`alias_escapes`).
-/
import GoWorkbench.Proofs.Imports
import GoWorkbench.Proofs.Path.Below

namespace GoWorkbench.Imports

open FileSystem GoWorkbench.Path

variable {fs : FileSystem} {base specifier root file : String}

/-! ## Endings -/

/-- **Endings**: what may follow a candidate. -/
theorem ending_of_mem {ending : String} (mem : ending ∈ endings) : Ending ending := by
  have index : ∀ name, Solid name → '/' ∉ name.toList → Ending ("/" ++ name) :=
    fun _ solid no_slash => .name solid no_slash
  simp only [endings, List.mem_cons, List.not_mem_nil, or_false] at mem
  rcases mem with rfl | rfl | rfl | rfl | rfl | rfl | rfl | rfl | rfl | rfl | rfl
  · exact .nothing
  iterate 6 exact .longer (by decide) (by decide)
  · exact index "index.go" ⟨by decide, by decide, by decide⟩ (by decide)
  · exact index "index.ts" ⟨by decide, by decide, by decide⟩ (by decide)
  · exact index "index.tsx" ⟨by decide, by decide, by decide⟩ (by decide)
  · exact index "index.js" ⟨by decide, by decide, by decide⟩ (by decide)

/-! ## Aliases -/

theorem inward_src : Inward "src" := ⟨rfl, by
  show ∀ n ∈ ["src"], Solid n
  intro n hn
  rw [List.mem_singleton.mp hn]
  exact ⟨by decide, by decide, by decide⟩⟩

/-- The directories for an aliased specifier: the workspace, and its `src`. -/
theorem directories_aliased (some_root : root ≠ "") (aliased : isAliased specifier = true) :
    directories base specifier (some root) = [root, join root "src"] := by
  have not_relative : ¬ isRelative specifier = true := fun relative => by
    rw [not_isAliased relative] at aliased
    cases aliased
  have kept : roots (some root) = [root] := by
    unfold roots
    simp [some_root]
  unfold directories
  rw [if_neg not_relative, if_pos aliased, kept]
  rfl

/-- **Aliases**: what an aliased import means is the text after `@/` joined to the workspace or its
    `src`, in its normal form and with an ending.  It lies below the workspace just if that does, or
    if that is the workspace itself and the ending a name in it; and always if the text is an inward
    path. -/
theorem alias_below (rooted : isAbsolute root = true) (aliased : isAliased specifier = true)
    (found : resolve fs base specifier (some root) = some file) :
    ∃ directory ∈ [root, join root "src"], ∃ ending ∈ endings,
      file = normalize (join directory (bareName specifier)) ++ ending ∧
      (Below root file ↔ Below root (join directory (bareName specifier)) ∨
        names (join directory (bareName specifier)) = names root ∧
          (ending.toList.head? = some '/' ∨ names root = [] ∧ ending ≠ "")) ∧
      (Inward (bareName specifier) → Below root file) := by
  have some_specifier : specifier ≠ "" := by
    rintro rfl
    cases aliased
  rw [resolve_eq_find fs base some_specifier] at found
  obtain ⟨directory, among, ends⟩ := List.mem_flatMap.mp (List.mem_of_find?_eq_some found)
  rw [directories_aliased (ne_empty_of_isAbsolute rooted) aliased] at among
  unfold nameOf at ends
  rw [if_pos aliased] at ends
  obtain ⟨ending, mem, rfl⟩ := List.mem_map.mp ends
  -- the directory goes on from the workspace
  obtain ⟨absolute, more, goes_on⟩ :
      isAbsolute directory = true ∧ ∃ more, names directory = names root ++ more := by
    simp only [List.mem_cons, List.not_mem_nil, or_false] at among
    rcases among with rfl | rfl
    · exact ⟨rooted, [], (List.append_nil _).symm⟩
    · exact ⟨isAbsolute_join rooted "src", names "src", (inward_src.names_join rooted).1⟩
  have below_iff := @below_append_iff root _ ending (isAbsolute_join absolute (bareName specifier))
    (ending_of_mem mem)
  exact ⟨directory, among, ending, mem, rfl, below_iff, fun inward =>
    below_iff.mpr (Or.inl (inward.below_join absolute goes_on))⟩

/-- A workspace, and files beside it. -/
def fringed : FileSystem :=
  ⟨[("w", .directory [
    ("ws", .directory [("lib.go", .file [] false)]),
    ("ws.go", .file [] false),
    ("x.go", .file [] false)])], .root⟩

theorem hasFile_fringed {path : String} {names : List String} (leads : LeadsTo path names)
    (passable : Passable path) (plain : endsInSlash path = false)
    (there : Entry.at? names fringed.entries = some (.file [] false)) : fringed.HasFile path :=
  ⟨_, _, leads.find passable there (plain ▸ fits_file _ _), fun _ h => Entry.noConfusion h⟩

/-- Where nothing is a candidate as it stands, the candidate with the first ending is meant. -/
theorem resolve_of_second {bare : String} {others : List String} (some_specifier : specifier ≠ "")
    (is : candidates base specifier (some root) = bare :: file :: others)
    (not_bare : ¬ fs.HasFile bare) (there : fs.HasFile file) :
    resolve fs base specifier (some root) = some file := by
  have first : fs.First (candidates base specifier (some root)) file :=
    ⟨[bare], others, is, there, fun other mem => List.mem_singleton.mp mem ▸ not_bare⟩
  rw [resolve_eq_find fs base some_specifier, first_iff.mp first]

theorem alias_below_lib : isAbsolute "/w/ws" = true ∧ isAliased "@/lib" = true ∧
    resolve fringed "/w/ws/m.go" "@/lib" (some "/w/ws") = some "/w/ws/lib.go" ∧
    Below "/w/ws" "/w/ws/lib.go" := by
  have lib : LeadsTo "/w/ws/lib" (["w", "ws"] ++ ["lib"]) := ⟨rfl, rfl, by decide⟩
  have lib_go : LeadsTo "/w/ws/lib.go" ["w", "ws", "lib.go"] := ⟨rfl, rfl, by decide⟩
  have no_lib : ¬ fringed.HasFile "/w/ws/lib" := not_hasFile_of_vacant
    (lib.reach_vacant (lib.passable (by decide) (by decide)) (by decide) ⟨_, rfl⟩ rfl)
  have there := hasFile_fringed lib_go (lib_go.passable (by decide) (by decide)) (by decide) rfl
  have found : resolve fringed "/w/ws/m.go" "@/lib" (some "/w/ws") = some "/w/ws/lib.go" :=
    resolve_of_second (by decide) rfl no_lib there
  have inward : Inward (bareName "@/lib") := ⟨rfl, by
    show ∀ n ∈ ["lib"], Solid n
    intro n hn
    rw [List.mem_singleton.mp hn]
    exact ⟨by decide, by decide, by decide⟩⟩
  obtain ⟨-, -, -, -, -, -, below⟩ := alias_below rfl rfl found
  exact ⟨rfl, rfl, found, below inward⟩

/-! ## Escapes -/

/-- **Escapes**: a text that goes up, one that starts at the root, and none at all. -/
theorem alias_escapes :
    (resolve fringed "/w/ws/m.go" "@/../x" (some "/w/ws") = some "/w/x.go" ∧
      resolve fringed "/w/ws/m.go" "@//w/x" (some "/w/ws") = some "/w/x.go" ∧
      ¬ Below "/w/ws" "/w/x.go") ∧
    resolve fringed "/w/ws/m.go" "@/" (some "/w/ws") = some "/w/ws.go" ∧
      ¬ Below "/w/ws" "/w/ws.go" := by
  have x : LeadsTo "/w/x" (["w"] ++ ["x"]) := ⟨rfl, rfl, by decide⟩
  have x_go : LeadsTo "/w/x.go" ["w", "x.go"] := ⟨rfl, rfl, by decide⟩
  have ws : LeadsTo "/w/ws" ["w", "ws"] := ⟨rfl, rfl, by decide⟩
  have ws_go : LeadsTo "/w/ws.go" ["w", "ws.go"] := ⟨rfl, rfl, by decide⟩
  have no_x : ¬ fringed.HasFile "/w/x" := not_hasFile_of_vacant
    (x.reach_vacant (x.passable (by decide) (by decide)) (by decide) ⟨_, rfl⟩ rfl)
  have no_ws : ¬ fringed.HasFile "/w/ws" := by
    rintro ⟨location, entry, found, leaf⟩
    have opens := ws.find (ws.passable (by decide) (by decide))
      (rfl : Entry.at? ["w", "ws"] fringed.entries = some (.directory _)) (fits_directory _ _)
    cases opens.symm.trans found
    exact leaf _ rfl
  have there := hasFile_fringed x_go (x_go.passable (by decide) (by decide)) (by decide) rfl
  have there' := hasFile_fringed ws_go (ws_go.passable (by decide) (by decide)) (by decide) rfl
  have outside : ∀ name, name ≠ "ws" → names ("/w/" ++ name) = ["w", name] →
      ¬ Below "/w/ws" ("/w/" ++ name) := by
    rintro name other is ⟨more, -, goes_on⟩
    rw [is, show names "/w/ws" = ["w", "ws"] from rfl] at goes_on
    cases goes_on
    exact other rfl
  refine ⟨⟨?_, ?_, outside "x.go" (by decide) rfl⟩, ?_, outside "ws.go" (by decide) rfl⟩
  · exact resolve_of_second (by decide) rfl no_x there
  · exact resolve_of_second (by decide) rfl no_x there
  · exact resolve_of_second (by decide) rfl no_ws there'

end GoWorkbench.Imports
