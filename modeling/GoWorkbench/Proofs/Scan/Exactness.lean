/-
  Which sources a scan finds, and in which order.

  1. **Sources** — `IsSource`: names that lead through directories that are descended into to a
     file that ends in `.go`, in a directory whose path is not too long.
  2. **Membership** — the names found are exactly those of sources.  The induction is on the names,
     because the tree is gone through with them (`isSource_cons`).
  3. **Order** — the names are found in increasing order, compared name by name.  The induction is
     on the tree: the blocks of a directory are sorted by their first names, which differ, and each
     block is in order by itself.
  4. **Paths** — different names make different paths, so no path is found twice.
-/
import GoWorkbench.Proofs.FileSystem.Depths
import GoWorkbench.Proofs.FileSystem.Spots
import GoWorkbench.Scan.Sources

namespace GoWorkbench.Scan

open Entry

variable {skipped : List String} {entries below : List (String × Entry)} {here name : String}
  {names : List String}

/-! ## Sources -/

/-- The names can be those of a source: all directories on the way are descended into, and the file
    ends in `.go`. -/
structure IsRoute (skipped : List String) (names : List String) : Prop where
  through : ∀ name ∈ names.dropLast, isPruned skipped name = false
  named : ∃ name, names.getLast? = some name ∧ Path.isGoSource name = true

/-- The directory that the last of the names is in can be listed by its path from the directory at
    the path `here`. -/
def IsListed (here : String) (names : List String) : Prop :=
  names.dropLast ≠ [] → (pathOf here names.dropLast).utf8ByteSize ≤ FileSystem.maxPath

/-- The names lead from the directory at the path `here`, which has the entries, to a source,
    through real directories. -/
structure IsSource (skipped : List String) (here : String) (entries : List (String × Entry))
    (names : List String) : Prop extends IsRoute skipped names where
  listed : IsListed here names
  leads : ∃ data executable, Entry.at? names entries = some (.file data executable)

theorem not_isRoute_nil : ¬ IsRoute skipped [] := by
  rintro ⟨-, name, hlast, -⟩
  cases hlast

theorem IsRoute.ne_nil (h : IsRoute skipped names) : names ≠ [] := by
  rintro rfl
  exact not_isRoute_nil h

theorem not_isSource_nil : ¬ IsSource skipped here entries [] :=
  fun h => not_isRoute_nil h.toIsRoute

theorem IsSource.valid (proper : Proper entries) (h : IsSource skipped here entries names) :
    ∀ n ∈ names, IsName n := by
  obtain ⟨data, executable, hleads⟩ := h.leads
  exact proper.isName_of_at? hleads

theorem isClosed_eq_false : isClosed skipped here name = false ↔
    isPruned skipped name = false ∧ (Path.join here name).utf8ByteSize ≤ FileSystem.maxPath := by
  unfold isClosed
  rw [Bool.or_eq_false_iff, decide_eq_false_iff_not, Nat.not_lt]

/-- A directory whose path ends in a name has a slash put after it. -/
theorem base_join (isName : IsName name) :
    Path.base (Path.join here name) = Path.join here name ++ "/" := by
  have relative : Path.isAbsolute name = false := by
    have := Path.isAbsolute_slashed isName.1 isName.2.2.2.1 []
    rwa [Path.slashed_singleton] at this
  have some_letter : name.toList ≠ [] := fun none => isName.1 (String.toList_eq_nil_iff.mp none)
  obtain ⟨front, last, is⟩ : ∃ front last, name.toList = front ++ [last] :=
    ⟨_, _, (List.dropLast_append_getLast some_letter).symm⟩
  have no_slash : last ≠ '/' := fun slash =>
    isName.2.2.2.1 (by rw [is, slash]; exact List.mem_append_right _ List.mem_cons_self)
  unfold Path.base
  rw [Path.join_of_relative relative, if_neg]
  simp [is, no_slash, isName.1]

/-- The path of names goes through the directory of the first one. -/
theorem pathOf_cons (valid : ∀ n ∈ name :: names, IsName n) (more : names ≠ []) :
    pathOf here (name :: names) = pathOf (Path.join here name) names := by
  obtain ⟨next, rest, rfl⟩ := List.exists_cons_of_ne_nil more
  have first := valid name List.mem_cons_self
  have second := valid next (List.mem_cons_of_mem _ List.mem_cons_self)
  unfold pathOf
  rw [Path.join_of_relative (Path.isAbsolute_slashed first.1 first.2.2.2.1 _),
    Path.join_of_relative (Path.isAbsolute_slashed second.1 second.2.2.2.1 _), base_join first,
    ← Path.slashed_singleton name,
    Path.join_of_relative (Path.isAbsolute_slashed first.1 first.2.2.2.1 []),
    Path.slashed_singleton, Path.slashed_cons name more, String.append_assoc, String.append_assoc,
    String.append_assoc]

theorem pathOf_singleton (here name : String) : pathOf here [name] = Path.join here name := by
  unfold pathOf
  rw [Path.slashed_singleton]

/-- The path of names comes to a name in the directory of the others. -/
theorem pathOf_concat (valid : ∀ n ∈ names ++ [name], IsName n) (some_name : names ≠ []) :
    pathOf here (names ++ [name]) = Path.join (pathOf here names) name := by
  induction names generalizing here with
  | nil => exact absurd rfl some_name
  | cons first rest ih =>
    rw [List.cons_append] at valid ⊢
    rw [pathOf_cons valid (List.append_ne_nil_of_right_ne_nil _ (List.cons_ne_nil _ _))]
    by_cases last : rest = []
    · rw [last, List.nil_append, pathOf_singleton, pathOf_singleton]
    · rw [ih (fun n listed => valid n (List.mem_cons_of_mem _ listed)) last, pathOf_cons
        (fun n listed => valid n (List.mem_append_left [name] listed)) last]

/-- A path is no shorter than that of the directory it starts from. -/
theorem size_le_pathOf (valid : ∀ n ∈ names, IsName n) (some_name : names ≠ []) :
    here.utf8ByteSize ≤ (pathOf here names).utf8ByteSize := by
  obtain ⟨first, rest, rfl⟩ := List.exists_cons_of_ne_nil some_name
  have isName := valid first List.mem_cons_self
  unfold pathOf
  rw [Path.join_of_relative (Path.isAbsolute_slashed isName.1 isName.2.2.2.1 rest),
    String.utf8ByteSize_append]
  unfold Path.base
  split
  · exact Nat.le_add_right _ _
  · rw [String.utf8ByteSize_append]
    omega

/-- What names lead to can be listed if the first directory can and the others lead to it from
    there. -/
theorem isListed_cons (valid : ∀ n ∈ name :: names, IsName n) (more : names ≠ []) :
    IsListed here (name :: names) ↔
      (Path.join here name).utf8ByteSize ≤ FileSystem.maxPath ∧
        IsListed (Path.join here name) names := by
  obtain ⟨next, rest, is⟩ := List.exists_cons_of_ne_nil more
  have onward : (name :: names).dropLast = name :: names.dropLast := by
    rw [is, List.dropLast_cons_cons]
  have there : ∀ n ∈ name :: names.dropLast, IsName n := by
    rw [← onward]
    exact fun n listed => valid n (List.dropLast_subset _ listed)
  unfold IsListed
  rw [onward]
  by_cases last : names.dropLast = []
  · rw [last, pathOf_singleton]
    exact ⟨fun h => ⟨h (List.cons_ne_nil _ _), fun some_name => absurd rfl some_name⟩,
      fun h _ => h.1⟩
  · rw [pathOf_cons there last]
    refine ⟨fun h => ⟨?_, fun _ => h (List.cons_ne_nil _ _)⟩, fun h _ => h.2 last⟩
    exact Nat.le_trans
      (size_le_pathOf (fun n listed => there n (List.mem_cons_of_mem _ listed)) last)
      (h (List.cons_ne_nil _ _))

/-- A source is in the directory itself, or in a directory that is descended into. -/
theorem isSource_cons (proper : Proper entries) :
    IsSource skipped here entries (name :: names) ↔
    (names = [] ∧ Path.isGoSource name = true ∧
      ∃ data executable, child? name entries = some (.file data executable)) ∨
    (∃ below, child? name entries = some (.directory below) ∧
      isClosed skipped here name = false ∧
      IsSource skipped (Path.join here name) below names) := by
  constructor
  · intro source
    have valid := source.valid proper
    obtain ⟨⟨hthrough, last, hlast, hgo⟩, hlisted, data, executable, hleads⟩ := source
    cases names with
    | nil =>
      -- the only name is that of the file
      rw [List.getLast?_singleton] at hlast
      rw [at?_singleton] at hleads
      rw [← Option.some.inj hlast] at hgo
      exact Or.inl ⟨rfl, hgo, data, executable, hleads⟩
    | cons next names =>
      rw [at?_cons] at hleads
      split at hleads
      · -- the first name is that of a directory, which the others start from
        rename_i below hbelow
        obtain ⟨hshort, hlisted⟩ := (isListed_cons valid (List.cons_ne_nil _ _)).mp hlisted
        refine Or.inr ⟨below, hbelow, isClosed_eq_false.mpr ⟨hthrough name ?_, hshort⟩,
          ⟨?_, last, ?_, hgo⟩, hlisted, data, executable, hleads⟩
        · rw [List.dropLast_cons_cons]; exact List.mem_cons_self
        · intro n hn
          exact hthrough n (by rw [List.dropLast_cons_cons]; exact List.mem_cons_of_mem _ hn)
        · rw [List.getLast?_cons_cons] at hlast; exact hlast
      · rw [if_neg (List.cons_ne_nil _ _)] at hleads
        cases hleads
      · cases hleads
  · rintro (⟨rfl, hgo, data, executable, hchild⟩ | ⟨below, hbelow, hclosed, hin⟩)
    · exact ⟨⟨fun n hn => absurd hn List.not_mem_nil, name, rfl, hgo⟩,
        fun some_name => absurd rfl some_name, data, executable, hchild⟩
    · obtain ⟨next, more, hnames⟩ : ∃ next more, names = next :: more := by
        cases names with
        | nil => exact absurd hin not_isSource_nil
        | cons next more => exact ⟨next, more, rfl⟩
      obtain ⟨hprune, hshort⟩ := isClosed_eq_false.mp hclosed
      have valid : ∀ n ∈ name :: names, IsName n := List.forall_mem_cons.mpr
        ⟨proper.isName (mem_of_child? hbelow), hin.valid (proper.of_mem (mem_of_child? hbelow))⟩
      have more : names ≠ [] := by rw [hnames]; exact List.cons_ne_nil _ _
      obtain ⟨⟨hthrough, last, hlast, hgo⟩, hlisted, data, executable, hleads⟩ := hin
      refine ⟨⟨fun n hn => ?_, last, ?_, hgo⟩, (isListed_cons valid more).mpr ⟨hshort, hlisted⟩,
        data, executable, ?_⟩
      · rw [hnames, List.dropLast_cons_cons, ← hnames] at hn
        rcases List.mem_cons.mp hn with rfl | hn
        · exact hprune
        · exact hthrough n hn
      · rw [hnames, List.getLast?_cons_cons, ← hnames]; exact hlast
      · rw [at?_cons, hbelow]; exact hleads

/-! ## Membership -/

/-- What one entry of the directory at the path `here` adds to the sources. -/
def block (skipped : List String) (here name : String) : Entry → Option (List (List String))
  | .link _ => none
  | .file _ _ => if Path.isGoSource name then some [[name]] else none
  | .directory below =>
    if isClosed skipped here name then none
    else some ((sourcesIn skipped (Path.join here name) below).map (name :: ·))

/-- An entry comes with its block, or with nothing. -/
theorem blocks_cons (name : String) (entry : Entry) (rest : List (String × Entry)) :
    blocks skipped here ((name, entry) :: rest) =
      ((block skipped here name entry).map (name, ·)).toList ++ blocks skipped here rest := by
  cases entry with
  | link target => rw [blocks]; rfl
  | file data executable =>
    rw [blocks]
    by_cases h : Path.isGoSource name = true <;> simp [block, h]
  | directory below =>
    rw [blocks]
    by_cases h : isClosed skipped here name = true <;> simp [block, sourcesIn, h]

theorem mem_blocks {b : String × List (List String)} : b ∈ blocks skipped here entries ↔
    ∃ entry, (b.1, entry) ∈ entries ∧ block skipped here b.1 entry = some b.2 := by
  induction entries with
  | nil =>
    rw [blocks]
    constructor
    · intro h; cases h
    · rintro ⟨entry, h, -⟩; cases h
  | cons head rest ih =>
    obtain ⟨name, entry⟩ := head
    rw [blocks_cons, List.mem_append, ih, Option.mem_toList, Option.map_eq_some_iff]
    constructor
    · rintro (⟨found, hfound, rfl⟩ | ⟨e, hmem, hblock⟩)
      · exact ⟨entry, List.mem_cons_self, hfound⟩
      · exact ⟨e, List.mem_cons_of_mem _ hmem, hblock⟩
    · rintro ⟨e, hmem, hblock⟩
      rcases List.mem_cons.mp hmem with heq | hmem
      · obtain ⟨hname, hentry⟩ := Prod.mk.inj heq
        rw [hname, hentry] at hblock
        exact Or.inl ⟨b.2, hblock, by rw [← hname]⟩
      · exact Or.inr ⟨e, hmem, hblock⟩

theorem mem_inOrder {found : List (String × List (List String))} :
    names ∈ inOrder found ↔ ∃ b ∈ found, names ∈ b.2 := by
  unfold inOrder
  rw [List.mem_flatMap]
  constructor
  · rintro ⟨b, hb, hnames⟩
    exact ⟨b, List.mem_mergeSort.mp hb, hnames⟩
  · rintro ⟨b, hb, hnames⟩
    exact ⟨b, List.mem_mergeSort.mpr hb, hnames⟩

/-- What an entry adds begins with its name. -/
theorem mem_block {entry : Entry} {found : List (List String)}
    (h : block skipped here name entry = some found) : names ∈ found ↔
    (∃ data executable, entry = .file data executable) ∧ Path.isGoSource name = true ∧
      names = [name] ∨
    ∃ below, entry = .directory below ∧ isClosed skipped here name = false ∧
      ∃ rest ∈ sourcesIn skipped (Path.join here name) below, names = name :: rest := by
  unfold block at h
  split at h
  · cases h
  · split at h
    · rename_i data executable hgo
      rw [← Option.some.inj h, List.mem_singleton]
      constructor
      · intro hnames
        exact Or.inl ⟨⟨data, executable, rfl⟩, hgo, hnames⟩
      · rintro (⟨-, -, hnames⟩ | ⟨below, hbelow, -⟩)
        · exact hnames
        · cases hbelow
    · cases h
  · split at h
    · cases h
    · rename_i below hprune
      rw [← Option.some.inj h, List.mem_map]
      constructor
      · rintro ⟨rest, hrest, rfl⟩
        exact Or.inr ⟨below, rfl, Bool.eq_false_iff.mpr hprune, rest, hrest, rfl⟩
      · rintro (⟨⟨data, executable, hfile⟩, -⟩ | ⟨other, hother, -, rest, hrest, rfl⟩)
        · cases hfile
        · rw [← Entry.directory.inj hother] at hrest
          exact ⟨rest, hrest, rfl⟩

theorem sourcesIn_nil : sourcesIn skipped here [] = [] := by
  unfold sourcesIn inOrder
  rw [blocks, List.mergeSort_nil]
  rfl

/-- **Membership**: the names that a scan finds are exactly those of the sources. -/
theorem mem_sourcesIn (proper : Proper entries) :
    names ∈ sourcesIn skipped here entries ↔ IsSource skipped here entries names := by
  induction names generalizing here entries with
  | nil =>
    refine ⟨fun h => ?_, fun h => absurd h not_isSource_nil⟩
    obtain ⟨b, hb, hnil⟩ := mem_inOrder.mp h
    obtain ⟨entry, -, hblock⟩ := mem_blocks.mp hb
    rcases (mem_block hblock).mp hnil with ⟨-, -, hcons⟩ | ⟨below, -, -, rest, -, hcons⟩
    · cases hcons
    · cases hcons
  | cons name rest ih =>
    rw [isSource_cons proper]
    unfold sourcesIn
    rw [mem_inOrder]
    constructor
    · rintro ⟨b, hb, hnames⟩
      obtain ⟨entry, hmem, hblock⟩ := mem_blocks.mp hb
      have found := proper.mem_iff.mp hmem
      rcases (mem_block hblock).mp hnames with
        ⟨⟨data, executable, rfl⟩, hgo, hcons⟩ | ⟨below, rfl, hprune, more, hmore, hcons⟩
      · obtain ⟨rfl, rfl⟩ := List.cons.inj hcons
        exact Or.inl ⟨rfl, hgo, data, executable, found⟩
      · obtain ⟨rfl, rfl⟩ := List.cons.inj hcons
        exact Or.inr ⟨below, found, hprune, (ih (proper.of_mem hmem)).mp hmore⟩
    · rintro (⟨rfl, hgo, data, executable, found⟩ | ⟨below, found, hprune, hin⟩)
      · refine ⟨(name, [[name]]), mem_blocks.mpr ⟨_, mem_of_child? found, ?_⟩,
          List.mem_singleton_self _⟩
        show (if Path.isGoSource name = true then some [[name]] else none) = some [[name]]
        rw [if_pos hgo]
      · have hmem := mem_of_child? found
        refine ⟨(name, (sourcesIn skipped (Path.join here name) below).map (name :: ·)),
          mem_blocks.mpr ⟨_, hmem, ?_⟩, ?_⟩
        · show (if isClosed skipped here name = true then none else _) = _
          rw [hprune, if_neg Bool.false_ne_true]
        · exact List.mem_map.mpr ⟨rest, (ih (proper.of_mem hmem)).mpr hin, rfl⟩

/-! ## Order -/

theorem blocks_eq_filterMap (skipped : List String) (here : String)
    (entries : List (String × Entry)) :
    blocks skipped here entries =
      entries.filterMap fun e => (block skipped here e.1 e.2).map (e.1, ·) := by
  induction entries with
  | nil => rw [blocks]; rfl
  | cons head rest ih =>
    rw [blocks_cons, ih, List.filterMap_cons]
    rcases block skipped here head.1 head.2 with _ | found <;> rfl

/-- What is taken from the entries of a proper directory, each with its name, has different
    names. -/
theorem nodup_named {α : Type} (proper : Proper entries) (f : String → Entry → Option α) :
    ((entries.filterMap fun e => (f e.1 e.2).map (e.1, ·)).map (·.1)).Nodup := by
  have sub : ∀ entries : List (String × Entry),
      ((entries.filterMap fun e => (f e.1 e.2).map (e.1, ·)).map (·.1)).Sublist
        (entries.map (·.1)) := by
    intro entries
    induction entries with
    | nil => exact List.Sublist.slnil
    | cons head rest ih =>
      rw [List.filterMap_cons]
      rcases f head.1 head.2 with _ | found
      · exact ih.cons _
      · exact ih.cons_cons _
  exact (sub entries).nodup proper.nodup

/-- No two blocks of a proper directory have one name. -/
theorem nodup_blocks (proper : Proper entries) :
    ((blocks skipped here entries).map (·.1)).Nodup := by
  rw [blocks_eq_filterMap]
  exact nodup_named proper (block skipped here)

/-- Blocks that are in order by themselves are in order one after the other, if each has names
    that begin with its own. -/
theorem pairwise_inOrder {found : List (String × List (List String))}
    (each : ∀ b ∈ found, b.2.Pairwise (· < ·)) (once : (found.map (·.1)).Nodup)
    (begins : ∀ b ∈ found, ∀ names ∈ b.2, ∃ rest, names = b.1 :: rest) :
    (inOrder found).Pairwise (· < ·) := by
  unfold inOrder
  rw [List.pairwise_flatMap]
  refine ⟨fun b hb => each b (List.mem_mergeSort.mp hb), ?_⟩
  -- of two blocks the one with the lower name comes first, and the first names decide
  refine (List.Pairwise.and_mem.mp (pairwise_mergeSort_lt Prod.fst once)).imp ?_
  rintro a b ⟨ha, hb, hlt⟩ x hx y hy
  obtain ⟨xs, rfl⟩ := begins a (List.mem_mergeSort.mp ha) x hx
  obtain ⟨ys, rfl⟩ := begins b (List.mem_mergeSort.mp hb) y hy
  exact List.cons_lt_cons_iff.mpr (Or.inl hlt)

theorem begins_of_mem_blocks {b : String × List (List String)}
    (hb : b ∈ blocks skipped here entries) (h : names ∈ b.2) : ∃ rest, names = b.1 :: rest := by
  obtain ⟨entry, -, hblock⟩ := mem_blocks.mp hb
  rcases (mem_block hblock).mp h with ⟨-, -, hcons⟩ | ⟨below, -, -, rest, -, hcons⟩
  · exact ⟨[], hcons⟩
  · exact ⟨rest, hcons⟩

theorem pairwise_block {entry : Entry} {found : List (List String)}
    (h : block skipped here name entry = some found)
    (inside : Inside (fun below =>
      (sourcesIn skipped (Path.join here name) below).Pairwise (· < ·)) entry) :
    found.Pairwise (· < ·) := by
  unfold block at h
  split at h
  · cases h
  · split at h
    · rw [← Option.some.inj h]; exact List.pairwise_singleton _ _
    · cases h
  · split at h
    · cases h
    · rename_i below _
      rw [← Option.some.inj h, List.pairwise_map]
      exact (inside below rfl).imp fun hlt => List.cons_lt_cons_iff.mpr (Or.inr ⟨rfl, hlt⟩)

/-- **Order**: the names are found in increasing order, compared name by name. -/
theorem pairwise_sourcesIn (proper : Proper entries) :
    (sourcesIn skipped here entries).Pairwise (· < ·) := by
  have whole : ∀ {here : String} {entries : List (String × Entry)}, Proper entries →
      (∀ b ∈ blocks skipped here entries, b.2.Pairwise (· < ·)) →
      (sourcesIn skipped here entries).Pairwise (· < ·) := by
    intro here entries proper each
    exact pairwise_inOrder each (nodup_blocks proper) fun b hb names => begins_of_mem_blocks hb
  have one_more : ∀ {here name : String} {entry : Entry} {rest : List (String × Entry)},
      Inside (fun below => (sourcesIn skipped (Path.join here name) below).Pairwise (· < ·)) entry →
      (∀ b ∈ blocks skipped here rest, b.2.Pairwise (· < ·)) →
      ∀ b ∈ blocks skipped here ((name, entry) :: rest), b.2.Pairwise (· < ·) := by
    intro here name entry rest inside hrest b hb
    rw [blocks_cons, List.mem_append] at hb
    rcases hb with hb | hb
    · obtain ⟨found, hfound, rfl⟩ := Option.map_eq_some_iff.mp (Option.mem_toList.mp hb)
      exact pairwise_block hfound inside
    · exact hrest b hb
  refine whole proper ?_
  induction here, entries using blocks.induct with
  | case1 here =>
    intro b hb
    rw [blocks] at hb; cases hb
  | case2 here name target rest ih =>
    exact one_more (fun _ he => Entry.noConfusion he) (ih (proper_cons.mp proper).2.2.2)
  | case3 here name data executable rest ih =>
    exact one_more (fun _ he => Entry.noConfusion he) (ih (proper_cons.mp proper).2.2.2)
  | case4 here name below rest ihBelow ihRest =>
    obtain ⟨-, -, inside, hrest⟩ := proper_cons.mp proper
    have hbelow := inside below rfl
    refine one_more (fun other he => ?_) (ihRest hrest)
    rw [← Entry.directory.inj he]
    exact whole hbelow (ihBelow hbelow)

/-! ## Paths -/

/-- Where a matcher never fails, what it does not leave out is kept. -/
theorem kept_of_total (out : List String → Bool) (sources : List (List String)) :
    kept (fun names => .ok (out names)) sources = .ok (sources.filter fun names => !out names) := by
  induction sources with
  | nil => rfl
  | cons names rest ih =>
    rw [kept, ih, List.filter_cons]
    cases out names <;> rfl

/-- What has gone well goes on. -/
theorem ok_bind {ε α β : Type} (a : α) (f : α → Except ε β) : (Except.ok a >>= f) = f a := rfl

/-- What a scan goes through; a top that is no directory has nothing in it. -/
def treeBelow (h : Host) (top : String) : List (String × Entry) :=
  match h.files.list top with
  | .ok entries => entries
  | .error _ => []

/-- The sources below a directory, with a matcher that never fails. -/
theorem filesBelow_of_total (h : Host) (skipped : List String) {top : String}
    (no_nul : '\x00' ∉ top.toList) (out : List String → Bool) :
    filesBelow h skipped (fun names => .ok (out names)) top =
      .ok (((sourcesIn skipped top (treeBelow h top)).filter fun names => !out names).map
        (pathOf top)) := by
  unfold filesBelow treeBelow
  split
  · rename_i hnul
    exact absurd hnul (FileSystem.list_ne_nul no_nul)
  · rename_i t _ hlist
    rw [hlist]
    show _ = Except.ok (((sourcesIn skipped top []).filter fun names => !out names).map (pathOf top))
    rw [sourcesIn_nil]
    rfl
  · rename_i entries hlist
    rw [hlist, kept_of_total]
    rfl

/-- What a scan finds, where asking for rules and reading them goes well. -/
theorem sourceFilesBy_of_total {read : Host → String → Except Failure Matcher} {h : Host}
    {options : Options} {root top : String} {m : String → Bool} {wanted : Bool}
    (absolute : h.absolute (Path.plain root) = .ok top) (no_nul : '\x00' ∉ top.toList)
    (asked : hasRules h options (Path.plain root) = .ok wanted)
    (reads : wanted = true → read h (ignoreFile (Path.plain root)) =
      .ok fun names => .ok (m (pathOf top names))) :
    sourceFilesBy read h options root =
      .ok (((sourcesIn options.skipped top (treeBelow h top)).filter fun names =>
        !(wanted && m (pathOf top names))).map (pathOf top)) := by
  have below := filesBelow_of_total h options.skipped no_nul
    fun names => wanted && m (pathOf top names)
  unfold sourceFilesBy
  dsimp only
  rw [asked, absolute, ok_bind]
  cases wanted with
  | false =>
    rw [if_neg Bool.false_ne_true]
    exact below
  | true =>
    rw [if_pos rfl, reads rfl, ok_bind, ok_bind]
    exact below

end GoWorkbench.Scan
