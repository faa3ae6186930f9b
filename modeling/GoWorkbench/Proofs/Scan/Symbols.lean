/-
  The symbols that a scan finds, and what they depend on.

  1. **Scans** — where there are no rules, a scan finds the symbols of all sources one after the
     other (`symbols_of_unruled`); a source that cannot be read has none.
  2. **Sameness** — two file systems without links have the same symbols below a root if the same
     routes lead to files with the same bytes (`SameSources`): the sources are determined by the
     routes because they are found in order.
-/
import GoWorkbench.Proofs.Scan.Exactness
import Mathlib.Data.List.Sort

namespace GoWorkbench.Scan

open Entry FileSystem

/-! ## Scans -/

/-- The symbols of the file at a path; what cannot be read has none. -/
def symbolsAt (fs : FileSystem) (path : String) : List Go.Symbol :=
  match fs.read path with
  | .ok data => Go.outline data path
  | .error _ => []

theorem fileSymbols_eq {h : Host} {path : String} (no_nul : '\x00' ∉ path.toList) :
    fileSymbols h path = .ok (symbolsAt h.files path) := by
  unfold fileSymbols symbolsAt
  split
  · rename_i data hread
    rw [hread]
  · rename_i hread
    exact absurd hread (read_ne_nul no_nul)
  · rename_i t _ hread
    rw [hread]

theorem symbolsOfFiles_eq {h : Host} {paths : List String}
    (no_nul : ∀ path ∈ paths, '\x00' ∉ path.toList) :
    symbolsOfFiles h paths = .ok (paths.flatMap (symbolsAt h.files)) := by
  induction paths with
  | nil => rfl
  | cons path rest ih =>
    obtain ⟨hpath, hrest⟩ := List.forall_mem_cons.mp no_nul
    rw [symbolsOfFiles, fileSymbols_eq hpath, ih hrest]
    rfl

/-- A path below a top without a NUL has none either. -/
theorem nul_not_mem_pathOf {top : String} {names : List String} (no_nul : '\x00' ∉ top.toList)
    (valid : ∀ n ∈ names, IsName n) : '\x00' ∉ (pathOf top names).toList := by
  have slashed : '\x00' ∉ (Path.slashed names).toList := by
    intro h
    rcases Path.mem_slashed h with h | ⟨n, hn, h⟩
    · revert h; decide
    · exact (valid n hn).2.2.2.2 h
  unfold pathOf Path.join
  split
  · exact slashed
  · split
    · rw [String.toList_append, List.mem_append, not_or]
      exact ⟨no_nul, slashed⟩
    · rw [String.toList_append, String.toList_append, List.mem_append, List.mem_append, not_or,
        not_or]
      exact ⟨⟨no_nul, by decide⟩, slashed⟩

/-- Where rules are not wanted there are none. -/
theorem hasRules_of_off (h : Host) {options : Options} (off : options.respectIgnore = false)
    (root : String) : hasRules h options root = .ok false := by
  unfold hasRules
  rw [off]
  rfl

/-- **A scan without rules** finds the symbols of all sources, one after the other. -/
theorem symbols_of_unruled {h : Host} {options : Options} {root top : String}
    (unruled : hasRules h options (Path.plain root) = .ok false)
    (absolute : h.absolute (Path.plain root) = .ok top) (no_nul : '\x00' ∉ top.toList)
    (proper : Proper (treeBelow h top)) :
    symbols h options root = .ok ((sourcesIn options.skipped top (treeBelow h top)).flatMap
      fun names => symbolsAt h.files (pathOf top names)) := by
  have files : sourceFiles h options root =
      .ok ((sourcesIn options.skipped top (treeBelow h top)).map (pathOf top)) := by
    have found := @sourceFilesBy_of_total readRules h options root top (fun _ => false) false
      absolute no_nul unruled fun wanted => Bool.noConfusion wanted
    simp only [Bool.and_false, Bool.not_false, List.filter_true] at found
    exact found
  have no_nuls : ∀ path ∈ (sourcesIn options.skipped top (treeBelow h top)).map (pathOf top),
      '\x00' ∉ path.toList := by
    intro path hpath
    obtain ⟨names, hnames, rfl⟩ := List.mem_map.mp hpath
    exact nul_not_mem_pathOf no_nul (((mem_sourcesIn proper).mp hnames).valid proper)
  unfold symbols
  rw [files, ok_bind, symbolsOfFiles_eq no_nuls, List.flatMap_map]

/-- What a scan finds depends on no other part of the surroundings than the files. -/
theorem sourceFiles_of_files {h h' : Host} (same : h'.files = h.files) (options : Options)
    (root : String) : sourceFiles h' options root = sourceFiles h options root := by
  unfold sourceFiles sourceFilesBy hasRules readRules filesBelow Host.probe Host.read Host.absolute
  rw [same]

theorem symbols_of_files {h h' : Host} (same : h'.files = h.files) (options : Options)
    (root : String) : symbols h' options root = symbols h options root := by
  have each : ∀ files, symbolsOfFiles h' files = symbolsOfFiles h files := by
    intro files
    induction files with
    | nil => rfl
    | cons file rest ih =>
      rw [symbolsOfFiles, symbolsOfFiles, ih]
      unfold fileSymbols
      rw [same]
  unfold symbols
  rw [sourceFiles_of_files same]
  exact congrArg _ (funext each)

/-! ## Sameness -/

variable {skipped : List String} {fs fs' : FileSystem} {root names rest : List String}
  {here top : String}

/-- The sources below a directory are the routes that lead to files, in directories that can be
    listed. -/
theorem mem_sourcesIn_entriesAt (proper : Proper fs.entries) :
    rest ∈ sourcesIn skipped here (fs.entriesAt ⟨names, 0⟩) ↔
      IsRoute skipped rest ∧ IsListed here rest ∧ (fileAt (names ++ rest) fs.entries).isSome := by
  rw [mem_sourcesIn (proper_entriesAt proper _), Option.isSome_iff_exists]
  constructor
  · rintro ⟨route, listed, data, executable, hat⟩
    rw [at?_entriesAt route.ne_nil] at hat
    exact ⟨route, listed, data, fileAt_eq_some.mpr ⟨executable, hat⟩⟩
  · rintro ⟨route, listed, data, hfile⟩
    obtain ⟨executable, hat⟩ := fileAt_eq_some.mp hfile
    rw [← at?_entriesAt route.ne_nil] at hat
    exact ⟨route, listed, data, executable, hat⟩

/-- What a scan of the root can see is the same: the same routes lead to files, with the same
    bytes. -/
def SameSources (skipped root : List String) (fs fs' : FileSystem) : Prop :=
  ∀ names, IsRoute skipped names →
    fileAt (root ++ names) fs'.entries = fileAt (root ++ names) fs.entries

theorem SameSources.refl (skipped root : List String) (fs : FileSystem) :
    SameSources skipped root fs fs := fun _ _ => rfl

/-- The names lead through directories that are descended into. -/
def Entered (skipped names : List String) : Prop := ∀ name ∈ names, isPruned skipped name = false

theorem Entered.isRoute (entered : Entered skipped names) (route : IsRoute skipped rest) :
    IsRoute skipped (names ++ rest) := by
  obtain ⟨through, last, hlast, hgo⟩ := route
  have some_rest : rest ≠ [] := by rintro rfl; cases hlast
  refine ⟨fun name hname => ?_, last, ?_, hgo⟩
  · rw [List.dropLast_append_of_ne_nil some_rest] at hname
    exact (List.mem_append.mp hname).elim (entered name) (through name)
  · rw [List.getLast?_append, hlast]; rfl

/-- The sources below a directory are determined by the routes, because they are found in
    order. -/
theorem SameSources.sourcesIn_eq (same : SameSources skipped root fs fs')
    (sound : fs.Sound) (sound' : fs'.Sound) (entered : Entered skipped names) :
    sourcesIn skipped here (fs'.entriesAt ⟨root ++ names, 0⟩) =
      sourcesIn skipped here (fs.entriesAt ⟨root ++ names, 0⟩) := by
  refine List.Pairwise.eq_of_mem_iff (pairwise_sourcesIn (proper_entriesAt sound'.proper _))
    (pairwise_sourcesIn (proper_entriesAt sound.proper _)) fun rest => ?_
  rw [mem_sourcesIn_entriesAt sound'.proper, mem_sourcesIn_entriesAt sound.proper]
  refine and_congr_right fun route => ?_
  rw [List.append_assoc, same _ (entered.isRoute route)]

/-- The path of names below a top leads to the names of the top and then to them. -/
theorem leadsTo_pathOf (leads : LeadsTo top root) (some_name : names ≠ [])
    (valid : ∀ n ∈ names, IsName n) : LeadsTo (pathOf top names) (root ++ names) :=
  leads.join some_name valid

theorem endsInSlash_pathOf (leads : LeadsTo top root) (some_name : names ≠ [])
    (valid : ∀ n ∈ names, IsName n) : endsInSlash (pathOf top names) = false :=
  (join_slashed leads.ne_empty some_name valid).2.2

/-- The symbols at a path depend on what is read there. -/
theorem symbolsAt_of_reads {path : String}
    (reads : ∀ data, fs'.read path = .ok data ↔ fs.read path = .ok data) :
    symbolsAt fs' path = symbolsAt fs path := by
  unfold symbolsAt
  rcases hread : fs.read path with t | data
  · rcases hread' : fs'.read path with t' | data'
    · rfl
    · rw [(reads data').mp hread'] at hread; cases hread
  · rw [(reads data).mpr hread]

/-- The symbols of a source depend on its bytes only. -/
theorem symbolsAt_congr (leads : LeadsTo top root) (some_name : names ≠ [])
    (valid : ∀ n ∈ names, IsName n) (sound : fs.Sound) (sound' : fs'.Sound)
    (same : fileAt (root ++ names) fs'.entries = fileAt (root ++ names) fs.entries) :
    symbolsAt fs' (pathOf top names) = symbolsAt fs (pathOf top names) := by
  have plain := endsInSlash_pathOf leads some_name valid
  have leads := leadsTo_pathOf leads some_name valid
  have reads : ∀ data, fs'.read (pathOf top names) = .ok data ↔
      fs.read (pathOf top names) = .ok data := by
    intro data
    rw [read_eq_ok sound'.free leads plain, read_eq_ok sound.free leads plain, same]
  exact symbolsAt_of_reads reads

/-- The path of a directory that a scan comes to. -/
def directoryOf (top : String) (names : List String) : String :=
  if names = [] then top else pathOf top names

theorem leadsTo_directoryOf (leads : LeadsTo top root) (valid : ∀ n ∈ names, IsName n) :
    LeadsTo (directoryOf top names) (root ++ names) := by
  unfold directoryOf
  by_cases hnames : names = []
  · rw [if_pos hnames, hnames, List.append_nil]; exact leads
  · rw [if_neg hnames]; exact leadsTo_pathOf leads hnames valid

/-- The symbols of the sources below names in the root. -/
def symbolsBelow (skipped root : List String) (top : String) (fs : FileSystem)
    (names : List String) : List Go.Symbol :=
  (sourcesIn skipped (directoryOf top names) (fs.entriesAt ⟨root ++ names, 0⟩)).flatMap
    fun rest => symbolsAt fs (pathOf top (names ++ rest))

/-- A scan of the root cannot tell the file systems apart. -/
theorem symbolsBelow_congr (leads : LeadsTo top root) (same : SameSources skipped root fs fs')
    (sound : fs.Sound) (sound' : fs'.Sound) (entered : Entered skipped names)
    (valid : ∀ n ∈ names, IsName n) :
    symbolsBelow skipped root top fs' names = symbolsBelow skipped root top fs names := by
  unfold symbolsBelow
  rw [same.sourcesIn_eq sound sound' entered]
  refine List.flatMap_congr fun rest hrest => ?_
  have source := (mem_sourcesIn (proper_entriesAt sound.proper _)).mp hrest
  have some_name : names ++ rest ≠ [] := List.append_ne_nil_of_right_ne_nil _ source.ne_nil
  refine symbolsAt_congr leads some_name (fun n hn => ?_) sound sound'
    (same _ (entered.isRoute source.toIsRoute))
  exact (List.mem_append.mp hn).elim (valid n) (source.valid (proper_entriesAt sound.proper _) n)

/-! ## Directories -/

/-- The path of what is below a directory begins with that of the directory. -/
theorem pathOf_append (leads : LeadsTo top root) (some_rest : rest ≠ [])
    (valid : ∀ n ∈ names ++ rest, IsName n) :
    ∃ more, pathOf top (names ++ rest) = directoryOf top names ++ more := by
  have relative : ∀ {ns : List String}, ns ≠ [] → (∀ n ∈ ns, IsName n) →
      Path.isAbsolute (Path.slashed ns) = false := by
    intro ns hns hvalid
    obtain ⟨first, more, rfl⟩ := List.exists_cons_of_ne_nil hns
    have hfirst := hvalid first List.mem_cons_self
    exact Path.isAbsolute_slashed hfirst.1 hfirst.2.2.2.1 more
  unfold directoryOf pathOf
  rw [Path.join_of_relative (relative (List.append_ne_nil_of_right_ne_nil _ some_rest) valid)]
  by_cases hnames : names = []
  · rw [if_pos hnames, hnames, List.nil_append]
    obtain ⟨front, hbase, hfront⟩ := Path.base_eq leads.ne_empty
    rcases hfront with h | h
    · exact ⟨"/" ++ Path.slashed rest, by rw [hbase, h, String.append_assoc]⟩
    · exact ⟨Path.slashed rest, by rw [hbase, h]⟩
  · rw [if_neg hnames, Path.slashed_append hnames some_rest,
      Path.join_of_relative (relative hnames fun n hn => valid n (List.mem_append_left _ hn))]
    exact ⟨"/" ++ Path.slashed rest, by rw [String.append_assoc, String.append_assoc]⟩

/-- What is below a directory whose path cannot be passed cannot be passed either. -/
theorem passable_directoryOf (leads : LeadsTo top root) (some_rest : rest ≠ [])
    (valid : ∀ n ∈ names ++ rest, IsName n) (passable : Passable (pathOf top (names ++ rest))) :
    Passable (directoryOf top names) := by
  obtain ⟨more, htext⟩ := pathOf_append leads some_rest valid
  have here := leadsTo_directoryOf leads fun n hn => valid n (List.mem_append_left rest hn)
  have there := leadsTo_pathOf leads (List.append_ne_nil_of_right_ne_nil _ some_rest) valid
  refine ⟨fun h => passable.no_nul ?_, ?_, fun n hn => passable.names n ?_⟩
  · rw [htext, String.toList_append]
    exact List.mem_append_left _ h
  · have short := passable.short
    rw [htext, String.utf8ByteSize_append] at short
    omega
  · rw [here.components] at hn
    rw [there.components, ← List.append_assoc]
    exact List.mem_append_left _ hn

/-- **Listing** a directory by its path finds what is in it, or nothing below it can be read. -/
theorem list_directoryOf (skipped : List String) (leads : LeadsTo top root)
    (sound : fs.Sound) (valid : ∀ n ∈ names, IsName n) :
    (∃ t, fs.list (directoryOf top names) = .error t ∧
      symbolsBelow skipped root top fs names = []) ∨
    fs.list (directoryOf top names) = .ok (fs.entriesAt ⟨root ++ names, 0⟩) := by
  have here := leadsTo_directoryOf leads valid
  rcases hlist : fs.list (directoryOf top names) with t | inner
  · refine Or.inl ⟨t, rfl, ?_⟩
    unfold symbolsBelow
    rw [List.flatMap_eq_nil_iff]
    intro rest hrest
    have source := (mem_sourcesIn (proper_entriesAt sound.proper _)).mp hrest
    have valid_rest : ∀ n ∈ names ++ rest, IsName n := fun n hn =>
      (List.mem_append.mp hn).elim (valid n) (source.valid (proper_entriesAt sound.proper _) n)
    have some_name : names ++ rest ≠ [] := List.append_ne_nil_of_right_ne_nil _ source.ne_nil
    -- the directory is there, since a source is in it, so its path is what is refused
    obtain ⟨data, executable, hleads⟩ := source.leads
    obtain ⟨inner, hinner⟩ : dirAt (root ++ names) fs.entries := by
      rw [at?_entriesAt source.ne_nil] at hleads
      exact dirAt_of_at?_append source.ne_nil hleads
    unfold symbolsAt
    split
    · rename_i read hread
      have passable := ((read_eq_ok sound.free (leadsTo_pathOf leads some_name valid_rest)
        (endsInSlash_pathOf leads some_name valid_rest)).mp hread).2
      have listed := (list_eq_ok sound.free here).mpr
        ⟨hinner, passable_directoryOf leads source.ne_nil valid_rest passable⟩
      rw [listed] at hlist; cases hlist
    · rfl
  · have hinner := ((list_eq_ok sound.free here).mp hlist).1
    rw [entriesAt_of_at? hinner]
    exact Or.inr rfl

/-- **A scan without rules** finds the symbols of all sources below the root. -/
theorem symbols_below_of_unruled {h : Host} {options : Options} {path : String}
    (unruled : hasRules h options (Path.plain path) = .ok false)
    (absolute : h.absolute (Path.plain path) = .ok top) (leads : LeadsTo top root)
    (sound : h.files.Sound) :
    symbols h options path = .ok (symbolsBelow options.skipped root top h.files []) := by
  have none : ∀ n ∈ ([] : List String), IsName n := fun n hn => absurd hn List.not_mem_nil
  have listed := list_directoryOf options.skipped leads sound none
  rw [List.append_nil] at listed
  have here : directoryOf top [] = top := if_pos rfl
  rw [here] at listed
  rcases listed with ⟨t, hlist, hnone⟩ | hlist
  · have tree : treeBelow h top = [] := by unfold treeBelow; rw [hlist]
    rw [symbols_of_unruled unruled absolute leads.no_nul (by rw [tree]; exact proper_nil), tree,
      sourcesIn_nil, hnone]
    rfl
  · have tree : treeBelow h top = h.files.entriesAt ⟨root, 0⟩ := by unfold treeBelow; rw [hlist]
    have proper : Proper (treeBelow h top) := by rw [tree]; exact proper_entriesAt sound.proper _
    rw [symbols_of_unruled unruled absolute leads.no_nul proper, tree]
    unfold symbolsBelow
    rw [List.append_nil, here]
    rfl

theorem symbols_eq_below {h : Host} {options : Options} {path : String}
    (off : options.respectIgnore = false) (absolute : h.absolute (Path.plain path) = .ok top)
    (leads : LeadsTo top root) (sound : h.files.Sound) :
    symbols h options path = .ok (symbolsBelow options.skipped root top h.files []) :=
  symbols_below_of_unruled (hasRules_of_off h off _) absolute leads sound

theorem symbolsBelow_of_empty (here : Entry.at? root fs.entries = some (.directory [])) :
    symbolsBelow skipped root top fs [] = [] := by
  unfold symbolsBelow
  rw [List.append_nil, entriesAt_of_at? here, sourcesIn_nil, List.flatMap_nil]

/-- Where one source is and nothing else, all symbols are in it. -/
theorem symbolsBelow_of_lone {name : String} {data : List UInt8} {executable : Bool}
    (leads : LeadsTo top root)
    (here : Entry.at? root fs.entries = some (.directory [(name, .file data executable)]))
    (isName : IsName name) (go : Path.isGoSource name = true)
    (passable : Passable (pathOf top [name])) :
    symbolsBelow skipped root top fs [] = Go.outline data (pathOf top [name]) := by
  have valid : ∀ n ∈ [name], IsName n := fun n hn => by
    rw [List.mem_singleton.mp hn]; exact isName
  have entries : fs.entriesAt ⟨root, 0⟩ = [(name, .file data executable)] := entriesAt_of_at? here
  have sources : ∀ here, sourcesIn skipped here [(name, .file data executable)] = [[name]] := by
    intro here
    simp [sourcesIn, inOrder, blocks, go]
  have found : fileAt (root ++ [name]) fs.entries = some data := by
    refine fileAt_eq_some.mpr ⟨executable, ?_⟩
    rw [← at?_entriesAt (List.cons_ne_nil _ _), entries, at?_singleton, child?_cons, if_pos rfl]
  have read : fs.read (pathOf top [name]) = .ok data :=
    (leadsTo_pathOf leads (List.cons_ne_nil _ _) valid).read passable found
      (endsInSlash_pathOf leads (List.cons_ne_nil _ _) valid)
  unfold symbolsBelow
  rw [List.append_nil, entries, sources, List.flatMap_singleton, List.nil_append]
  unfold symbolsAt
  rw [read]

end GoWorkbench.Scan
