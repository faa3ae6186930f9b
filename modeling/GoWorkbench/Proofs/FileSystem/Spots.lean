/-
  The names that the text of a path leads to, where no symbolic link is.

  1. **Joining** — names below a directory lead to the names of the directory and then to them.
  2. **Collapsing** — taking `.` and `..` out of the text and going through the components lead to
     the same names (`collapse_rooted`), also in two goes (`collapse_append`).
  3. **Forms** — so a path, its plain form and its normal form lead to the same names, and its
     link-free form is made of them (`canonicalNames_eq`).
  4. **Containment** — one path lies in another if its names begin with the names of the other
     (`isWithin_eq`).  A path from a working directory that is gone lies in none
     (`isWithin_adrift`).
-/
import GoWorkbench.FileSystem.Canonical
import GoWorkbench.Proofs.FileSystem.Walking
import GoWorkbench.Proofs.Path.Components

namespace GoWorkbench

open Entry

/-! ## Joining -/

namespace FileSystem

variable {directory : String} {names : List String}

theorem isAbsolute_append {front : String} (h : front ≠ "") (rest : String) :
    Path.isAbsolute (front ++ rest) = Path.isAbsolute front := by
  obtain ⟨c, cs, hc⟩ : ∃ c cs, front.toList = c :: cs :=
    List.exists_cons_of_ne_nil fun hnil => h (String.toList_eq_nil_iff.mp hnil)
  unfold Path.isAbsolute
  rw [String.toList_append, hc]
  rfl

/-- What is joined to a directory starts where the directory does. -/
theorem isAbsolute_base (some_directory : directory ≠ "") (rest : String) :
    Path.isAbsolute (Path.base directory ++ rest) = Path.isAbsolute directory := by
  obtain ⟨front, hbase, hfront⟩ := Path.base_eq some_directory
  rw [hbase]
  rcases hfront with h | h
  · rw [String.append_assoc, isAbsolute_append (h ▸ some_directory), h]
  · rw [h, isAbsolute_append (h ▸ some_directory)]

/-- Components are parts of a text between slashes, and something is in them. -/
theorem of_mem_components {path n : String} (h : n ∈ components path) :
    n ∈ Path.parts path ∧ n ≠ "" ∧ '/' ∉ n.toList := by
  obtain ⟨hpart, nonempty⟩ := List.mem_filter.mp h
  refine ⟨hpart, ?_, fun hslash => (Path.mem_of_mem_parts hpart hslash).2 rfl⟩
  rintro rfl
  cases nonempty

/-- A path whose last part is a name does not end in a slash. -/
theorem endsInSlash_of_parts {path name : String} (h : (Path.parts path).getLast? = some name)
    (nonempty : name ≠ "") : endsInSlash path = false := by
  unfold endsInSlash
  refine decide_eq_false fun hlast => ?_
  obtain ⟨front, hfront⟩ := List.getLast?_eq_some_iff.mp hlast
  have hparts : Path.parts path = Path.parts (String.ofList front) ++ [""] := by
    unfold Path.parts
    rw [hfront, String.toList_ofList, Text.splitAt_append, List.map_append]
    rfl
  rw [hparts, List.getLast?_concat] at h
  exact nonempty (Option.some.inj h).symm

/-- The components of what is joined to a directory come after those of the directory. -/
theorem components_base (some_directory : directory ≠ "") (rest : String) :
    components (Path.base directory ++ rest) = components directory ++ components rest := by
  obtain ⟨front, hbase, hfront⟩ := Path.base_eq some_directory
  rw [hbase, components_append]
  rcases hfront with h | h
  · rw [h]
  · rw [h, show front ++ "/" = front ++ "/" ++ "" by simp, components_append, components_empty,
      List.append_nil]

/-- The path of names below a directory. -/
theorem join_slashed (some_directory : directory ≠ "") (some_name : names ≠ [])
    (valid : ∀ n ∈ names, IsName n) :
    Path.isAbsolute (Path.join directory (Path.slashed names)) = Path.isAbsolute directory ∧
      components (Path.join directory (Path.slashed names)) = components directory ++ names ∧
      endsInSlash (Path.join directory (Path.slashed names)) = false := by
  obtain ⟨first, more, hnames⟩ := List.exists_cons_of_ne_nil some_name
  have hfirst : IsName first := valid first (by rw [hnames]; exact List.mem_cons_self)
  have relative : Path.isAbsolute (Path.slashed names) = false := by
    rw [hnames]; exact Path.isAbsolute_slashed hfirst.1 hfirst.2.2.2.1 more
  rw [Path.join_of_relative relative]
  refine ⟨isAbsolute_base some_directory _, ?_, ?_⟩
  · rw [components_base some_directory, components_slashed (fun n hn => (valid n hn).1)
      fun n hn => (valid n hn).2.2.2.1]
  · obtain ⟨front, hbase, -⟩ := Path.base_eq some_directory
    rw [hbase]
    obtain ⟨last, hlast⟩ : ∃ last, names.getLast? = some last :=
      ⟨names.getLast some_name, List.getLast?_eq_some_getLast some_name⟩
    have hparts : (Path.parts (front ++ "/" ++ Path.slashed names)).getLast? = some last := by
      rw [Path.parts_append, Path.parts_slashed some_name fun n hn => (valid n hn).2.2.2.1,
        List.getLast?_append, hlast]
      rfl
    exact endsInSlash_of_parts hparts (valid last (List.mem_of_getLast? hlast)).1

/-- Names below a directory lead to the names of the directory and then to them. -/
theorem LeadsTo.join {root : List String} (h : LeadsTo directory root) (some_name : names ≠ [])
    (valid : ∀ n ∈ names, IsName n) :
    LeadsTo (Path.join directory (Path.slashed names)) (root ++ names) := by
  obtain ⟨habs, hcomponents, -⟩ := join_slashed h.ne_empty some_name valid
  refine ⟨habs.trans h.absolute, ?_, fun n hn => ?_⟩
  · rw [hcomponents, h.components]
  · exact (List.mem_append.mp hn).elim (h.valid n) (valid n)

/-- A path of names has no NUL, because names have none. -/
theorem LeadsTo.no_nul {path : String} (h : LeadsTo path names) : '\x00' ∉ path.toList := by
  intro hnul
  obtain ⟨part, hpart, hmem⟩ := Path.exists_mem_parts hnul (by decide)
  have some_part : part ≠ "" := by rintro rfl; cases hmem
  have hname : part ∈ FileSystem.components path :=
    List.mem_filter.mpr ⟨hpart, by simp [some_part]⟩
  rw [h.components] at hname
  exact (h.valid part hname).2.2.2.2 hmem

/-- A text from the root leads to the names in it. -/
theorem leadsTo_slashed (valid : ∀ n ∈ names, IsName n) :
    LeadsTo ("/" ++ Path.slashed names) names := by
  refine ⟨by rw [isAbsolute_append (by decide)]; decide, ?_, valid⟩
  exact (components_rootOf "/" _).trans
    (components_slashed (fun n hn => (valid n hn).1) fun n hn => (valid n hn).2.2.2.1)

/-- A path of short names can be passed to an operating system. -/
theorem LeadsTo.passable {path : String} (h : LeadsTo path names)
    (short_names : ∀ n ∈ names, n.utf8ByteSize ≤ maxName) (short : path.utf8ByteSize ≤ maxPath) :
    Passable path := by
  refine ⟨h.no_nul, short, ?_⟩
  rw [h.components]; exact short_names

/-! ## Collapsing -/

/-- The components that no collapsing takes out. -/
def Solid (component : String) : Prop := component ≠ "" ∧ component ≠ "." ∧ component ≠ ".."

theorem solid_of_isName {component : String} (h : IsName component) : Solid component :=
  ⟨h.1, h.2.1, h.2.2.1⟩

theorem push_solid {rooted : Bool} {component : String} (h : Solid component) :
    Path.push rooted names component = component :: names := by
  unfold Path.push
  rw [if_neg (by simp [h.1, h.2.1]), if_pos (by simp [h.2.2])]

/-- Nothing and a dot are passed over. -/
theorem push_skipped {rooted : Bool} {component : String} (h : component = "" ∨ component = ".") :
    Path.push rooted names component = names := by
  unfold Path.push
  rw [if_pos (by simpa using h)]

/-- `..` takes out the component before it. -/
theorem push_up {rooted : Bool} {last : String} (h : last ≠ "..") :
    Path.push rooted (last :: names) ".." = names := by
  unfold Path.push
  rw [if_neg (by decide), if_neg (by decide)]
  exact if_neg (by simpa using h)

/-- But not another `..`. -/
theorem push_up_up {rooted : Bool} :
    Path.push rooted (".." :: names) ".." = ".." :: ".." :: names := rfl

/-- Pushing onto solid components from the root is a step. -/
theorem push_rooted {component : String} (nonempty : component ≠ "")
    (solid : ∀ n ∈ names, Solid n) :
    Path.push true names component = (step names.reverse component).reverse ∧
      ∀ n ∈ Path.push true names component, Solid n := by
  unfold step
  by_cases hdot : component = "."
  · rw [if_pos hdot, List.reverse_reverse]
    rw [push_skipped (.inr hdot)]
    exact ⟨rfl, solid⟩
  rw [if_neg hdot]
  by_cases hup : component = ".."
  · rw [if_pos hup, hup]
    cases names with
    | nil => exact ⟨rfl, fun n hn => absurd hn List.not_mem_nil⟩
    | cons last rest =>
      have hlast : last ≠ ".." := (solid last List.mem_cons_self).2.2
      rw [push_up hlast, List.reverse_cons, List.dropLast_concat, List.reverse_reverse]
      exact ⟨rfl, fun n hn => solid n (List.mem_cons_of_mem _ hn)⟩
  · rw [if_neg hup, push_solid ⟨nonempty, hdot, hup⟩, List.reverse_append, List.reverse_reverse]
    exact ⟨rfl, List.forall_mem_cons.mpr ⟨⟨nonempty, hdot, hup⟩, solid⟩⟩

theorem foldl_push_rooted (parts : List String) (solid : ∀ n ∈ names, Solid n) :
    (parts.foldl (Path.push true) names).reverse =
        steps names.reverse (parts.filter fun c => !c.isEmpty) ∧
      ∀ n ∈ parts.foldl (Path.push true) names, Solid n := by
  induction parts generalizing names with
  | nil => exact ⟨rfl, solid⟩
  | cons part rest ih =>
    rw [List.foldl_cons, List.filter_cons]
    by_cases hempty : part = ""
    · rw [push_skipped (.inl hempty), if_neg (by simp [hempty])]
      exact ih solid
    · obtain ⟨hpush, hsolid⟩ := push_rooted hempty solid
      obtain ⟨hsteps, hmore⟩ := ih hsolid
      rw [if_pos (by simp [hempty]), steps_cons, hsteps, hpush, List.reverse_reverse]
      refine ⟨rfl, ?_⟩
      rw [← hpush]; exact hmore

/-- **Collapsing from the root** leads where the components lead. -/
theorem collapse_rooted (parts : List String) :
    Path.collapse true parts = steps [] (parts.filter fun c => !c.isEmpty) ∧
      ∀ n ∈ Path.collapse true parts, Solid n := by
  have none : ∀ n ∈ ([] : List String), Solid n := fun n hn => absurd hn List.not_mem_nil
  obtain ⟨hsteps, hsolid⟩ := foldl_push_rooted parts none
  exact ⟨hsteps, fun n hn => hsolid n (List.mem_reverse.mp hn)⟩

/-- Components that are pushed one by one. -/
def pushed (names acc : List String) : List String :=
  names.foldr (fun component acc => Path.push true acc component) acc

/-- What a relative path has collapsed to does, pushed onto others, what its components do. -/
theorem pushed_push (acc : List String) (kept : ∀ n ∈ names, n ≠ "" ∧ n ≠ ".")
    (component : String) :
    pushed (Path.push false names component) acc = Path.push true (pushed names acc) component ∧
      ∀ n ∈ Path.push false names component, n ≠ "" ∧ n ≠ "." := by
  by_cases hskip : component = "" ∨ component = "."
  · rw [push_skipped hskip, push_skipped hskip]
    exact ⟨rfl, kept⟩
  rw [not_or] at hskip
  by_cases hup : component = ".."
  · rw [hup]
    cases names with
    | nil =>
      exact ⟨rfl, fun n hn => by rw [List.mem_singleton.mp hn]; decide⟩
    | cons last rest =>
      by_cases hlast : last = ".."
      · rw [hlast, push_up_up]
        rw [hlast] at kept
        exact ⟨rfl, List.forall_mem_cons.mpr ⟨by decide, kept⟩⟩
      · obtain ⟨⟨hempty, hdot⟩, hrest⟩ := List.forall_mem_cons.mp kept
        have hpushed : pushed (last :: rest) acc = last :: pushed rest acc :=
          push_solid ⟨hempty, hdot, hlast⟩
        rw [push_up hlast, hpushed, push_up hlast]
        exact ⟨rfl, hrest⟩
  · have hsolid : Solid component := ⟨hskip.1, hskip.2, hup⟩
    rw [push_solid hsolid]
    exact ⟨rfl, List.forall_mem_cons.mpr ⟨⟨hskip.1, hskip.2⟩, kept⟩⟩

theorem pushed_foldl (acc : List String) (kept : ∀ n ∈ names, n ≠ "" ∧ n ≠ ".")
    (parts : List String) :
    pushed (parts.foldl (Path.push false) names) acc =
      parts.foldl (Path.push true) (pushed names acc) := by
  induction parts generalizing names with
  | nil => rfl
  | cons part rest ih =>
    obtain ⟨hpush, hkept⟩ := pushed_push acc kept part
    rw [List.foldl_cons, List.foldl_cons, ih hkept, hpush]

theorem foldl_push_solid (solid : ∀ n ∈ names, Solid n) (acc : List String) :
    names.foldl (Path.push true) acc = names.reverse ++ acc := by
  induction names generalizing acc with
  | nil => rfl
  | cons first rest ih =>
    obtain ⟨hfirst, hrest⟩ := List.forall_mem_cons.mp solid
    rw [List.foldl_cons, push_solid hfirst, ih hrest, List.reverse_cons, List.append_assoc]
    rfl

/-- **Collapsing in two goes**: a path that is collapsed by itself first leads on from a directory
    to where its components lead. -/
theorem collapse_append {start : List String} (solid : ∀ n ∈ start, Solid n)
    (parts : List String) :
    Path.collapse true (start ++ (parts.foldl (Path.push false) []).reverse) =
      steps start (parts.filter fun c => !c.isEmpty) := by
  have two : (parts.foldl (Path.push false) []).reverse.foldl (Path.push true) start.reverse =
      parts.foldl (Path.push true) start.reverse := by
    have none : ∀ n ∈ ([] : List String), n ≠ "" ∧ n ≠ "." :=
      fun n hn => absurd hn List.not_mem_nil
    rw [List.foldl_reverse]
    exact pushed_foldl start.reverse none parts
  unfold Path.collapse
  rw [List.foldl_append, foldl_push_solid solid, List.append_nil, two]
  rw [(foldl_push_rooted parts fun n hn => solid n (List.mem_reverse.mp hn)).1,
    List.reverse_reverse]

/-! ## Forms -/

theorem lead_eq_collapse (path : String) :
    lead .root path = Path.collapse true (Path.parts path) := by
  rw [lead_root, (collapse_rooted _).1]
  rfl

theorem mem_foldl_push {rooted : Bool} {n : String} (parts : List String)
    (h : n ∈ parts.foldl (Path.push rooted) names) : n ∈ names ∨ n ∈ parts := by
  induction parts generalizing names with
  | nil => exact Or.inl h
  | cons part rest ih =>
    rcases ih h with h | h
    · have hpush : n ∈ names ∨ n = part := by
        unfold Path.push at h
        split at h
        · exact Or.inl h
        split at h
        · exact (List.mem_cons.mp h).symm
        rename_i hup
        have hup : part = ".." := by simpa using hup
        split at h
        · split at h
          · cases h
          · exact Or.inr ((List.mem_singleton.mp h).trans hup.symm)
        · split at h
          · exact (List.mem_cons.mp h).symm.imp id fun h => h.trans hup.symm
          · exact Or.inl (List.mem_cons_of_mem _ h)
      exact hpush.imp id fun hn => by rw [hn]; exact List.mem_cons_self
    · exact Or.inr (List.mem_cons_of_mem _ h)

/-- What a path from the root collapses to is made of names. -/
theorem isName_of_mem_collapse {path n : String} (no_nul : '\x00' ∉ path.toList)
    (h : n ∈ Path.collapse true (Path.parts path)) : IsName n := by
  have hsolid := (collapse_rooted (Path.parts path)).2 n h
  have hpart : n ∈ Path.parts path :=
    (mem_foldl_push _ (List.mem_reverse.mp h)).resolve_left List.not_mem_nil
  refine ⟨hsolid.1, hsolid.2.1, hsolid.2.2, fun hslash => ?_, fun hnul => no_nul ?_⟩
  · exact (Path.mem_of_mem_parts hpart hslash).2 rfl
  · exact (Path.mem_of_mem_parts hpart hnul).1

/-- The normal form of a path from the root leads to its spot. -/
theorem leadsTo_normalize {fs : FileSystem} {path : String} (h : Path.isAbsolute path = true)
    (no_nul : '\x00' ∉ path.toList) : LeadsTo (Path.normalize path) (fs.spot path) := by
  rw [spot_of_absolute h, lead_eq_collapse]
  obtain ⟨-, hroot⟩ | ⟨hrel, -⟩ := Path.rootOf_cases path
  · have nonempty : Path.rootOf path ≠ "" := by rcases hroot with h | h <;> rw [h] <;> decide
    have some_text : ∀ rest, Path.rootOf path ++ rest ≠ "" := by
      rcases hroot with h | h <;> rw [h] <;> simp
    have isEmpty : (Path.rootOf path).isEmpty = false :=
      Bool.eq_false_iff.mpr fun he => nonempty (String.isEmpty_iff.mp he)
    have text : Path.normalize path =
        Path.rootOf path ++ Path.slashed (Path.collapse true (Path.parts path)) := by
      unfold Path.normalize
      dsimp only
      rw [isEmpty]
      exact if_neg fun he => some_text _ (String.isEmpty_iff.mp he)
    have names : ∀ n ∈ Path.collapse true (Path.parts path), IsName n :=
      fun n hn => isName_of_mem_collapse no_nul hn
    refine ⟨?_, ?_, names⟩
    · rw [text, isAbsolute_append nonempty]
      rcases hroot with h | h <;> rw [h] <;> decide
    · rw [text, components_rootOf, components_slashed (fun n hn => (names n hn).1)
        fun n hn => (names n hn).2.2.2.1]
  · rw [hrel] at h; cases h

theorem isAbsolute_normalize {path : String} (h : Path.isAbsolute path = true) :
    Path.isAbsolute (Path.normalize path) = true := by
  obtain ⟨-, hroot⟩ | ⟨hrel, -⟩ := Path.rootOf_cases path
  · unfold Path.normalize
    dsimp only
    rw [if_neg ?_]
    · rcases hroot with h | h <;> rw [h, isAbsolute_append (by decide)] <;> decide
    · rw [String.isEmpty_iff]
      rcases hroot with h | h <;> rw [h] <;> simp
  · rw [hrel] at h; cases h

/-- The working directory has a path just if it exists. -/
theorem workingDirectory_eq_ok {fs : FileSystem} {here : String} :
    fs.workingDirectory = .ok here ↔
      fs.current.gone = 0 ∧ "/" ++ Path.slashed fs.current.names = here := by
  unfold workingDirectory
  split
  · rename_i gone
    exact iff_of_false nofun fun h => absurd h.1 (Nat.ne_of_gt gone)
  · rename_i whole
    rw [Except.ok.injEq]
    exact (and_iff_right (Nat.eq_zero_of_not_pos whole)).symm

/-- A path that is said from the root starts there. -/
theorem isAbsolute_of_absolute {fs : FileSystem} {path top : String}
    (h : fs.absolute path = .ok top) : Path.isAbsolute top = true := by
  unfold absolute at h
  split at h
  · rename_i habs
    rw [← Except.ok.inj h]; exact isAbsolute_normalize habs
  · rename_i hrel
    split at h
    · cases h
    · rename_i here hhere
      rw [← Except.ok.inj h]
      refine isAbsolute_normalize ?_
      have habs : Path.isAbsolute here = true := by
        rw [← (workingDirectory_eq_ok.mp hhere).2, isAbsolute_append (by decide)]
        decide
      have some_here : here ≠ "" := by
        rintro rfl; cases habs
      rw [Path.join_of_relative (Bool.eq_false_iff.mpr hrel), isAbsolute_base some_here]
      exact habs

/-- The text of the working directory has no NUL. -/
theorem no_nul_of_workingDirectory {fs : FileSystem} {path : String}
    (names : ∀ n ∈ fs.current.names, IsName n) (h : fs.workingDirectory = .ok path) :
    '\x00' ∉ path.toList := by
  rw [← (workingDirectory_eq_ok.mp h).2]
  exact (leadsTo_slashed names).no_nul

theorem steps_without_dots (start todo : List String) :
    steps start (todo.filter (· != ".")) = steps start todo := by
  induction todo generalizing start with
  | nil => rfl
  | cons first rest ih =>
    rw [List.filter_cons, steps_cons]
    by_cases h : first = "."
    · rw [if_neg (by simp [h]), ih, step, if_pos h]
    · rw [if_pos (by simp [h]), steps_cons, ih]

/-- The components that the plain form of a path keeps. -/
theorem components_filter (path : String) :
    (Path.parts path).filter (fun c => !c.isEmpty && c != ".") =
      (components path).filter (· != ".") := by
  unfold components
  rw [List.filter_filter]
  exact List.filter_congr fun c _ => Bool.and_comm _ _

/-- The components of a path that are no dots, put together again. -/
theorem components_dotless (path : String) :
    components (Path.slashed ((components path).filter (· != "."))) =
      (components path).filter (· != ".") :=
  components_slashed (fun _ hn => (of_mem_components (List.mem_filter.mp hn).1).2.1)
    fun _ hn => (of_mem_components (List.mem_filter.mp hn).1).2.2

/-- The plain form of a path starts where the path does and has its components, except for dots. -/
theorem plain_components (path : String) :
    Path.isAbsolute (Path.plain path) = Path.isAbsolute path ∧
      (components (Path.plain path)).filter (· != ".") =
        (components path).filter (· != ".") := by
  have dotless : ∀ names : List String,
      (names.filter (· != ".")).filter (· != ".") = names.filter (· != ".") := by
    intro names
    rw [List.filter_filter]
    simp
  unfold Path.plain
  dsimp only
  rw [components_filter]
  obtain ⟨habs, hroot⟩ | ⟨hrel, hroot⟩ := Path.rootOf_cases path
  · have nonempty : Path.rootOf path ≠ "" := by rcases hroot with h | h <;> rw [h] <;> decide
    have some_text : ¬ (Path.rootOf path ++
        Path.slashed ((components path).filter (· != "."))).isEmpty = true := by
      rw [String.isEmpty_iff]
      rcases hroot with h | h <;> rw [h] <;> simp
    rw [if_neg some_text]
    refine ⟨?_, ?_⟩
    · rw [habs, isAbsolute_append nonempty]
      rcases hroot with h | h <;> rw [h] <;> decide
    · rw [components_rootOf, components_dotless, dotless]
  · rw [hroot, String.empty_append, hrel]
    by_cases hnil : (components path).filter (· != ".") = []
    · -- nothing but dots: the plain form is a dot
      rw [hnil]
      exact ⟨rfl, rfl⟩
    · obtain ⟨first, rest, hfirst⟩ := List.exists_cons_of_ne_nil hnil
      have kept : first ∈ (components path).filter (· != ".") := by
        rw [hfirst]; exact List.mem_cons_self
      obtain ⟨-, nonempty, no_slash⟩ := of_mem_components (List.mem_filter.mp kept).1
      have hrelative := Path.isAbsolute_slashed nonempty no_slash rest
      rw [← hfirst] at hrelative
      have some_text : ¬ (Path.slashed ((components path).filter (· != "."))).isEmpty = true := by
        rw [String.isEmpty_iff]
        intro hempty
        have hcomponents := components_dotless path
        rw [hempty] at hcomponents
        exact hnil hcomponents.symm
      rw [if_neg some_text]
      exact ⟨hrelative, by rw [components_dotless, dotless]⟩

/-- So it leads where the path does. -/
theorem plain_forms (path : String) : Path.isAbsolute (Path.plain path) = Path.isAbsolute path ∧
    ∀ start, steps start (components (Path.plain path)) = steps start (components path) := by
  obtain ⟨habs, hcomponents⟩ := plain_components path
  refine ⟨habs, fun start => ?_⟩
  rw [← steps_without_dots, hcomponents, steps_without_dots]

/-- The plain form of a path leads to the spot of the path. -/
theorem spot_plain (fs : FileSystem) (path : String) :
    fs.spot (Path.plain path) = fs.spot path := by
  obtain ⟨habs, hsteps⟩ := plain_forms path
  unfold spot
  rw [habs, hsteps]

theorem nul_not_mem_plain {path : String} (no_nul : '\x00' ∉ path.toList) :
    '\x00' ∉ (Path.plain path).toList := by
  unfold Path.plain
  dsimp only
  split
  · decide
  · rw [String.toList_append, List.mem_append]
    rintro (h | h)
    · obtain ⟨-, hroot | hroot⟩ | ⟨-, hroot⟩ := Path.rootOf_cases path
      all_goals rw [hroot] at h; revert h; decide
    · rcases Path.mem_slashed h with h | ⟨n, hn, h⟩
      · revert h; decide
      · exact no_nul (Path.mem_of_mem_parts (List.mem_filter.mp hn).1 h).1

/-- Nor does the plain form lose one. -/
theorem nul_not_mem_of_plain {path : String} (no_nul : '\x00' ∉ (Path.plain path).toList) :
    '\x00' ∉ path.toList := by
  intro hnul
  obtain ⟨part, hpart, hmem⟩ := Path.exists_mem_parts hnul (by decide)
  have some_part : part ≠ "" := by rintro rfl; cases hmem
  have no_dot : part ≠ "." := by rintro rfl; revert hmem; decide
  have kept : part ∈ (Path.parts path).filter fun c => !c.isEmpty && c != "." :=
    List.mem_filter.mpr ⟨hpart, by simp [some_part, no_dot]⟩
  have htext := Path.mem_slashed_of_mem kept hmem
  refine no_nul ?_
  unfold Path.plain
  dsimp only
  split
  · rename_i hempty
    rw [String.isEmpty_iff, ← String.toList_eq_nil_iff, String.toList_append] at hempty
    rw [(List.append_eq_nil_iff.mp hempty).2] at htext
    cases htext
  · rw [String.toList_append]
    exact List.mem_append_right _ htext

/-! ## Containment -/

variable {fs : FileSystem}

/-- Where no link is counted, none is anywhere. -/
theorem linkFree_of_countLinks {entries : List (String × Entry)} (h : countLinks entries = 0) :
    LinkFree entries := by
  induction entries using countLinks.induct with
  | case1 => exact linkFree_nil
  | case2 name target rest ih => rw [countLinks] at h; omega
  | case3 name inner rest ih_inner ih_rest =>
    rw [countLinks] at h
    refine linkFree_cons (fun _ h => Entry.noConfusion h) (fun _ he => ?_) (ih_rest (by omega))
    rw [← Entry.directory.inj he]
    exact ih_inner (by omega)
  | case4 name data executable rest ih =>
    rw [countLinks] at h
    exact linkFree_cons (fun _ h => Entry.noConfusion h) (fun _ h => Entry.noConfusion h) (ih h)

/-- Where no link is, following a path is pushing its components. -/
theorem settle_eq (free : LinkFree fs.entries) (links : Nat) (pending : List Reached)
    (here : Reached) (todo : List String) :
    fs.settle links pending here todo = (todo.foldl Reached.push here, true) := by
  induction todo generalizing here with
  | nil => rw [settle]; rfl
  | cons name rest ih =>
    rw [settle]
    split
    · exact ih _
    · split
      · rename_i target hentry
        unfold entryOf at hentry
        split at hentry
        · cases hentry
        split at hentry
        · cases hentry
        · exact (no_link_in free hentry).elim
      · exact ih _

theorem foldl_reached_push (here : Reached) (todo : List String) :
    todo.foldl Reached.push here =
      ⟨here.rooted, todo.foldl (Path.push here.rooted) here.names⟩ := by
  induction todo generalizing here with
  | nil => rfl
  | cons name rest ih =>
    rw [List.foldl_cons, ih]; rfl

theorem find_ne_loop (free : LinkFree fs.entries) (path : String) :
    fs.find path ≠ .error .loop := by
  intro h
  unfold find at h
  split at h
  · rename_i t ht
    rw [Except.error.inj h] at ht
    unfold reach at ht
    split at ht
    · cases ht
    split at ht
    · cases ht
    split at ht
    · cases ht
    · exact walk_ne_loop free _ _ _ _ ht
  · cases h
  · cases h

/-- The path can be said from the root: it starts there, or the working directory exists. -/
def Anchored (fs : FileSystem) (path : String) : Prop :=
  Path.isAbsolute path = true ∨ fs.current.gone = 0

/-- The names that lead to the working directory are such. -/
theorem Sound.solid (sound : fs.Sound) : ∀ n ∈ fs.current.names, Solid n :=
  fun n hn => solid_of_isName (sound.names n hn)

/-- **The link-free form** of a path is made of the names that it leads to. -/
theorem canonicalNames_eq (free : LinkFree fs.entries) (solid : ∀ n ∈ fs.current.names, Solid n)
    {path : String} (no_nul : '\x00' ∉ path.toList) (anchored : fs.Anchored path) :
    fs.canonicalNames path = .ok (fs.spot path) := by
  have names : Path.collapse true ((if Path.isAbsolute path then [] else fs.current.names) ++
      ((Path.parts path).foldl (Path.push (Path.isAbsolute path)) []).reverse) = fs.spot path := by
    unfold spot
    by_cases habs : Path.isAbsolute path = true
    · rw [if_pos habs, habs]
      have hcollapse := collapse_rooted (Path.parts path)
      show Path.collapse true (Path.collapse true (Path.parts path)) = _
      unfold Path.collapse at hcollapse ⊢
      rw [foldl_push_solid hcollapse.2, List.append_nil, List.reverse_reverse]
      exact hcollapse.1
    · rw [if_neg habs, Bool.eq_false_iff.mpr habs]
      exact collapse_append solid (Path.parts path)
  unfold canonicalNames
  rw [if_neg no_nul, settle_eq free, foldl_reached_push]
  dsimp only
  rw [if_neg ?_, names]
  · split
    · rename_i hloop
      exact absurd hloop (find_ne_loop free _)
    · rfl
  · intro hgone
    rw [Bool.and_eq_true, Bool.not_eq_true', decide_eq_true_eq] at hgone
    rcases anchored with habs | hzero
    · rw [habs] at hgone; cases hgone.1
    · omega

/-- A path that starts in a working directory that is gone has no link-free form. -/
theorem canonicalNames_adrift (free : LinkFree fs.entries) {path : String}
    (no_nul : '\x00' ∉ path.toList) (adrift : ¬ fs.Anchored path) :
    fs.canonicalNames path = .error (.trouble .missing) := by
  obtain ⟨relative, gone⟩ := not_or.mp adrift
  unfold canonicalNames
  rw [if_neg no_nul, settle_eq free, foldl_reached_push]
  dsimp only
  rw [if_pos]
  rw [Bool.eq_false_iff.mpr relative]
  exact decide_eq_true (Nat.pos_of_ne_zero gone)

theorem anchored_plain {path : String} : fs.Anchored (Path.plain path) ↔ fs.Anchored path := by
  unfold Anchored
  rw [(plain_forms path).1]

theorem canonicalNames_plain (free : LinkFree fs.entries)
    (solid : ∀ n ∈ fs.current.names, Solid n) {path : String} (no_nul : '\x00' ∉ path.toList)
    (anchored : fs.Anchored path) : fs.canonicalNames (Path.plain path) = .ok (fs.spot path) := by
  rw [← spot_plain]
  exact canonicalNames_eq free solid (nul_not_mem_plain no_nul) (anchored_plain.mpr anchored)

/-- **Containment** goes by the names that the paths lead to. -/
theorem isWithin_eq (free : LinkFree fs.entries) (solid : ∀ n ∈ fs.current.names, Solid n)
    {path root : String} (path_no_nul : '\x00' ∉ path.toList) (root_no_nul : '\x00' ∉ root.toList)
    (path_anchored : fs.Anchored path) (root_anchored : fs.Anchored root) :
    fs.isWithin path root = .ok ((fs.spot root).isPrefixOf (fs.spot path)) := by
  unfold isWithin
  rw [canonicalNames_plain free solid root_no_nul root_anchored,
    canonicalNames_plain free solid path_no_nul path_anchored]

/-- What starts in a working directory that is gone is in nothing. -/
theorem isWithin_adrift (free : LinkFree fs.entries) (solid : ∀ n ∈ fs.current.names, Solid n)
    {path root : String} (path_no_nul : '\x00' ∉ path.toList) (root_no_nul : '\x00' ∉ root.toList)
    (adrift : ¬ fs.Anchored path) (root_anchored : fs.Anchored root) :
    fs.isWithin path root = .ok false := by
  unfold isWithin
  rw [canonicalNames_plain free solid root_no_nul root_anchored,
    canonicalNames_adrift free (nul_not_mem_plain path_no_nul) (mt anchored_plain.mp adrift)]
  rfl

end FileSystem

end GoWorkbench
