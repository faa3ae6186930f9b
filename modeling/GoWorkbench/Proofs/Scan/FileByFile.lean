/-
  Sources are indexed file by file.

  1. **Keeping** — a matcher that does not fail is a filter (`kept_eq_ok`), so what is found is
     what the filter keeps of the sources at the top (`place_of_found`).
  2. **Sources** — the sources are found in order, so one more source is found in its place among
     the others, and all others stay where they are (`sourcesIn_insert`).
  3. **Cuts** — a found source cuts a scan in two.  Writing over it leaves the scan as it is, and
     taking it away takes out one path (`exists_cut`).
  4. **Symbols** — the symbols before and after it stay; its own are those of the bytes in it
     (`symbols_file_by_file`).
-/
import GoWorkbench.Proofs.Scan.Rules

namespace GoWorkbench.Scan

open Entry FileSystem

variable {h : Host} {fs fs' : FileSystem} {options : Options} {skipped : List String}
  {matcher : Matcher} {top file root : String} {place own : List String}
  {before after : List (List String)} {files : List String}

/-! ## Keeping -/

/-- The matcher does not take the source out. -/
def stays (matcher : Matcher) (names : List String) : Bool :=
  match matcher names with
  | .ok out => !out
  | .error _ => false

theorem kept_eq_ok {sources found : List (List String)} : kept matcher sources = .ok found ↔
    (∀ names ∈ sources, ∃ out, matcher names = .ok out) ∧
      found = sources.filter (stays matcher) := by
  induction sources generalizing found with
  | nil => exact ⟨fun h => ⟨fun _ hn => absurd hn List.not_mem_nil, (Except.ok.inj h).symm⟩,
      fun ⟨_, is⟩ => congrArg Except.ok is.symm⟩
  | cons names rest ih =>
    rw [kept, bind_eq_ok, List.forall_mem_cons, List.filter_cons]
    constructor
    · rintro ⟨out, matched, on⟩
      obtain ⟨more, hmore, is⟩ := bind_eq_ok.mp on
      obtain ⟨all, rfl⟩ := ih.mp hmore
      refine ⟨⟨⟨out, matched⟩, all⟩, ?_⟩
      rw [← Except.ok.inj is]
      unfold stays
      rw [matched]
      cases out <;> rfl
    · rintro ⟨⟨⟨out, matched⟩, all⟩, rfl⟩
      refine ⟨out, matched, bind_eq_ok.mpr ⟨_, ih.mpr ⟨all, rfl⟩, ?_⟩⟩
      unfold stays
      rw [matched]
      cases out <;> rfl

/-- The files below a top that is listed. -/
theorem filesBelow_eq_ok {entries : List (String × Entry)} (listed : h.files.list top = .ok entries) :
    filesBelow h skipped matcher top = .ok files ↔
      (∀ names ∈ sourcesIn skipped top entries, ∃ out, matcher names = .ok out) ∧
        files = ((sourcesIn skipped top entries).filter (stays matcher)).map (pathOf top) := by
  unfold filesBelow
  rw [listed]
  dsimp only
  rw [bind_eq_ok]
  constructor
  · rintro ⟨found, hfound, is⟩
    rcases kept_it : kept matcher (sourcesIn skipped top entries) with e | all
    · rw [kept_it] at hfound; cases hfound
    · rw [kept_it] at hfound
      cases hfound
      obtain ⟨total, rfl⟩ := kept_eq_ok.mp kept_it
      exact ⟨total, (Except.ok.inj is).symm⟩
  · rintro ⟨total, rfl⟩
    exact ⟨_, by rw [kept_eq_ok.mpr ⟨total, rfl⟩]; rfl, rfl⟩

/-- The top below which something is found is listed, and leads to the place of what is found. -/
theorem place_of_found (absolute : Path.isAbsolute top = true)
    (below : filesBelow h skipped matcher top = .ok files) (found : file ∈ files) :
    ∃ place, LeadsInto h.files top place ∧
      h.files.reach .look top =
        .ok (.object ⟨place, 0⟩ (.directory (h.files.entriesAt ⟨place, 0⟩))) ∧
      (∀ names ∈ sourcesIn skipped top (h.files.entriesAt ⟨place, 0⟩),
        ∃ out, matcher names = .ok out) ∧
      files = ((sourcesIn skipped top (h.files.entriesAt ⟨place, 0⟩)).filter (stays matcher)).map
        (pathOf top) := by
  obtain ⟨entries, listed⟩ : ∃ entries, h.files.list top = .ok entries := by
    rcases hlist : h.files.list top with t | entries
    · -- a top that cannot be listed has nothing below it
      unfold filesBelow at below
      rw [hlist] at below
      cases t <;> cases below <;> cases found
    · exact ⟨entries, rfl⟩
  obtain ⟨⟨place, gone⟩, reaches⟩ := reach_of_list listed
  obtain ⟨into, whole, is⟩ := leadsInto_of_reach absolute reaches
  obtain rfl : gone = 0 := congrArg Place.gone whole
  subst is
  exact ⟨place, into, reaches, (filesBelow_eq_ok listed).mp below⟩

/-! ## Sources -/

theorem SameBut.fileAt {spot route : List String} (same : SameBut spot fs fs')
    (other : route ≠ spot) : Entry.fileAt route fs'.entries = Entry.fileAt route fs.entries := by
  unfold Entry.fileAt
  rw [same.leaves route other]

/-- A source cuts a scan into what is found before it and what is found after it. -/
structure Cut (h : Host) (options : Options) (root top : String) (place own : List String)
    (before after : List (List String)) : Prop where
  into : LeadsInto h.files top place
  sources : ∀ names ∈ before ++ own :: after,
    IsSource options.skipped top (h.files.entriesAt ⟨place, 0⟩) names
  others : ∀ names ∈ before ++ after, names ≠ own
  /-- Writing over the source leaves the scan as it is. -/
  overwritten : ∀ fs, SameBut (place ++ own) h.files fs → Proper fs.entries →
    (fileAt (place ++ own) fs.entries).isSome → LeadsInto fs top place ∧
      sourceFiles { h with files := fs } options root =
        .ok ((before ++ own :: after).map (pathOf top))
  /-- Taking the source away takes out its path. -/
  takenAway : ∀ fs, SameBut (place ++ own) h.files fs → Proper fs.entries →
    fileAt (place ++ own) fs.entries = none → LeadsInto fs top place ∧
      sourceFiles { h with files := fs } options root = .ok ((before ++ after).map (pathOf top))

theorem isName_of_route (proper : Proper fs.entries) {names : List String}
    (source : IsSource skipped top (fs.entriesAt ⟨place, 0⟩) names) :
    names ≠ [] ∧ ∀ n ∈ names, IsName n :=
  ⟨source.ne_nil, source.valid (proper_entriesAt proper _)⟩

/-- A scan finds the files, and the symbols in them. -/
def Finds (h : Host) (options : Options) (root : String) (files : List String)
    (found : List Go.Symbol) : Prop :=
  sourceFiles h options root = .ok files ∧ symbols h options root = .ok found

theorem path_of_mem_outline {source : List UInt8} {path : String} {s : Go.Symbol}
    (h : s ∈ Go.outline source path) : s.path = path := by
  unfold Go.outline Go.symbolsOf at h
  split at h
  · cases h
  · obtain ⟨⟨kind, n⟩, -, is⟩ := List.mem_filterMap.mp h
    change Go.symbolOf path kind n = some s at is
    unfold Go.symbolOf at is
    split at is
    · cases is
    · rw [← Option.some.inj is]

/-- The symbols of files are in these files. -/
theorem path_of_mem_symbolsOfFiles {files : List String} {found : List Go.Symbol}
    (finds : symbolsOfFiles h files = .ok found) {s : Go.Symbol} (mem : s ∈ found) :
    s.path ∈ files := by
  induction files generalizing found with
  | nil =>
    cases finds
    cases mem
  | cons file rest ih =>
    rw [symbolsOfFiles, bind_eq_ok] at finds
    obtain ⟨own, here, finds⟩ := finds
    rw [bind_eq_ok] at finds
    obtain ⟨others, there, is⟩ := finds
    rw [← Except.ok.inj is] at mem
    rcases List.mem_append.mp mem with mem | mem
    · unfold fileSymbols at here
      split at here
      · rw [← Except.ok.inj here] at mem
        rw [path_of_mem_outline mem]
        exact List.mem_cons_self
      · cases here
      · rw [← Except.ok.inj here] at mem
        cases mem
    · exact List.mem_cons_of_mem _ (ih there mem)

/-- So the symbols that a scan finds are in the files that it finds. -/
theorem path_of_mem_symbols {found : List Go.Symbol} (finds : symbols h options root = .ok found) :
    ∃ files, sourceFiles h options root = .ok files ∧ ∀ s ∈ found, s.path ∈ files := by
  obtain ⟨files, scanned, finds⟩ := bind_eq_ok.mp finds
  exact ⟨files, scanned, fun s mem => path_of_mem_symbolsOfFiles finds mem⟩

/-- The symbols of some of the sources below a top. -/
def symbolsOfNames (fs : FileSystem) (top : String) (found : List (List String)) :
    List Go.Symbol :=
  found.flatMap fun names => symbolsAt fs (pathOf top names)

/-- A scan that finds files finds their symbols. -/
theorem finds_of_sourceFiles {found : List (List String)} (no_nul : '\x00' ∉ top.toList)
    (valid : ∀ names ∈ found, ∀ n ∈ names, IsName n)
    (scanned : sourceFiles h options root = .ok (found.map (pathOf top))) :
    Finds h options root (found.map (pathOf top)) (symbolsOfNames h.files top found) := by
  refine ⟨scanned, ?_⟩
  unfold symbols symbolsOfNames
  rw [scanned, ok_bind, symbolsOfFiles_eq fun path hpath => ?_, List.flatMap_map]
  obtain ⟨names, hnames, rfl⟩ := List.mem_map.mp hpath
  exact nul_not_mem_pathOf no_nul (valid names hnames)

theorem Cut.valid (cut : Cut h options root top place own before after)
    (proper : Proper h.files.entries) {names : List String}
    (found : names ∈ before ++ own :: after) : names ≠ [] ∧ ∀ n ∈ names, IsName n :=
  isName_of_route proper (cut.sources names found)

theorem Cut.own_mem (_ : Cut h options root top place own before after) :
    own ∈ before ++ own :: after := List.mem_append_right _ List.mem_cons_self

/-- The file that cuts a scan is there. -/
theorem Cut.found (cut : Cut h options root top place own before after) :
    ∃ data executable, Entry.at? (place ++ own) h.files.entries = some (.file data executable) := by
  have source := cut.sources own cut.own_mem
  obtain ⟨data, executable, leads⟩ := source.leads
  rw [at?_entriesAt source.ne_nil] at leads
  exact ⟨data, executable, leads⟩

/-- The symbols of other sources stay. -/
theorem Cut.symbolsAt_other (cut : Cut h options root top place own before after)
    (proper : Proper h.files.entries) (same : SameBut (place ++ own) h.files fs)
    (into : LeadsInto fs top place) {names : List String} (found : names ∈ before ++ own :: after)
    (other : names ≠ own) :
    symbolsAt fs (pathOf top names) = symbolsAt h.files (pathOf top names) := by
  obtain ⟨some_name, valid⟩ := cut.valid proper found
  obtain ⟨data, executable, leads⟩ := (cut.sources names found).leads
  rw [at?_entriesAt some_name] at leads
  have leads' : Entry.at? (place ++ names) fs.entries = some (.file data executable) := by
    refine at?_of_leafAt ?_
    rw [same.leaves _ fun h => other (List.append_cancel_left h)]
    unfold leafAt
    rw [leads]
  refine symbolsAt_of_reads fun got => ?_
  rw [into.read_eq_ok some_name valid leads', cut.into.read_eq_ok some_name valid leads]

theorem Cut.symbolsOfNames_others (cut : Cut h options root top place own before after)
    (proper : Proper h.files.entries) (same : SameBut (place ++ own) h.files fs)
    (into : LeadsInto fs top place) {found : List (List String)}
    (sub : found.Sublist (before ++ after)) :
    symbolsOfNames fs top found = symbolsOfNames h.files top found := by
  refine List.flatMap_congr fun names hnames => cut.symbolsAt_other proper same into ?_
    (cut.others names (sub.mem hnames))
  exact (List.Sublist.append_left (List.sublist_cons_self own after) before).mem (sub.mem hnames)

/-- **Writing over a source** replaces its symbols by those of the new bytes. -/
theorem Cut.finds_overwritten (cut : Cut h options root top place own before after)
    (proper : Proper h.files.entries) (same : SameBut (place ++ own) h.files fs)
    (proper' : Proper fs.entries) {data : List UInt8} {executable : Bool}
    (there : Entry.at? (place ++ own) fs.entries = some (.file data executable))
    (within : Within top own) :
    Finds { h with files := fs } options root ((before ++ own :: after).map (pathOf top))
      (symbolsOfNames h.files top before ++ Go.outline data (pathOf top own) ++
        symbolsOfNames h.files top after) := by
  have isSome : (fileAt (place ++ own) fs.entries).isSome := by
    rw [fileAt_eq_some.mpr ⟨executable, there⟩]; rfl
  obtain ⟨into, scanned⟩ := cut.overwritten fs same proper' isSome
  have finds := finds_of_sourceFiles (h := { h with files := fs }) into.no_nul
    (fun names hnames => (cut.valid proper hnames).2) scanned
  obtain ⟨some_name, valid⟩ := cut.valid proper cut.own_mem
  have own_symbols : symbolsAt fs (pathOf top own) = Go.outline data (pathOf top own) := by
    unfold symbolsAt
    rw [(into.read_eq_ok some_name valid there).mpr ⟨within, rfl⟩]
  have parts : symbolsOfNames fs top (before ++ own :: after) =
      symbolsOfNames h.files top before ++ Go.outline data (pathOf top own) ++
        symbolsOfNames h.files top after := by
    rw [← cut.symbolsOfNames_others proper same into (List.sublist_append_left before after),
      ← cut.symbolsOfNames_others proper same into (List.sublist_append_right before after),
      ← own_symbols]
    simp [symbolsOfNames]
  rw [← parts]
  exact finds

theorem Proper.isName_of_sources (proper : Proper h.files.entries)
    (cut : Cut h options root top place own before after) : ∀ n ∈ place ++ own, IsName n := by
  obtain ⟨data, executable, found⟩ := cut.found
  exact proper.isName_of_at? found

/-- A file at the end of names is one name farther than a directory. -/
theorem Cut.parent (cut : Cut h options root top place own before after) :
    ∃ parent name, place ++ own = parent ++ [name] ∧ dirAt parent h.files.entries ∧
      ¬ dirAt (parent ++ [name]) h.files.entries := by
  obtain ⟨data, executable, found⟩ := cut.found
  have leaf : ∀ inner, Entry.file data executable ≠ .directory inner :=
    fun _ h => Entry.noConfusion h
  obtain ⟨parent, name, is, there⟩ := exists_parent found leaf
  exact ⟨parent, name, is, there, is ▸ not_dirAt found leaf⟩

/-- A cut scan finds what stands before the source, its own symbols and what stands after it. -/
theorem Cut.finds (cut : Cut h options root top place own before after)
    (proper : Proper h.files.entries) {data : List UInt8} {executable : Bool}
    (found : Entry.at? (place ++ own) h.files.entries = some (.file data executable))
    (within : Within top own) :
    Finds h options root ((before ++ own :: after).map (pathOf top))
      (symbolsOfNames h.files top before ++ Go.outline data (pathOf top own) ++
        symbolsOfNames h.files top after) := by
  have no_link : ∀ target, leafAt (place ++ own) h.files.entries ≠ some (.link target) :=
    no_link_of_at? fun target h => by rw [found] at h; cases h
  exact cut.finds_overwritten proper (.refl no_link) proper found within

/-- **After a write** through its path the file has the bytes, and nothing else has changed. -/
theorem Cut.write (cut : Cut h options root top place own before after)
    (proper : Proper h.files.entries) {bytes : List UInt8}
    (written : h.files.write (pathOf top own) bytes = .ok fs) :
    Within top own ∧ SameBut (place ++ own) h.files fs ∧ Proper fs.entries ∧
      ∃ executable, Entry.at? (place ++ own) fs.entries = some (.file bytes executable) := by
  obtain ⟨data, executable, found⟩ := cut.found
  obtain ⟨some_name, valid⟩ := cut.valid proper cut.own_mem
  obtain ⟨within, rfl⟩ := (cut.into.write_eq_ok some_name valid found).mp written
  obtain ⟨parent, name, is, there, leaf⟩ := cut.parent
  have no_link : ∀ target, Entry.at? (parent ++ [name]) h.files.entries ≠ some (.link target) := by
    intro target h
    rw [← is, found] at h; cases h
  obtain ⟨same, at_spot⟩ := sameBut_put there leaf no_link bytes executable
  rw [← is] at same at_spot
  refine ⟨within, same, ?_, executable, at_spot⟩
  exact proper.put (Proper.isName_of_sources proper cut) fun _ h => Entry.noConfusion h

/-- **After a removal** nothing is where the file was, and nothing else has changed. -/
theorem Cut.remove (cut : Cut h options root top place own before after)
    (proper : Proper h.files.entries) (stands : Stands h.files.entries h.files.current)
    (removed : h.files.remove (pathOf top own) = .ok fs) :
    SameBut (place ++ own) h.files fs ∧ Proper fs.entries ∧
      Entry.at? (place ++ own) fs.entries = none := by
  obtain ⟨data, executable, found⟩ := cut.found
  obtain ⟨some_name, valid⟩ := cut.valid proper cut.own_mem
  obtain ⟨-, rfl⟩ := (cut.into.remove_eq_ok some_name valid found).mp removed
  obtain ⟨parent, name, is, -, -⟩ := cut.parent
  rw [is] at found ⊢
  obtain ⟨same, gone⟩ := sameBut_erase stands found
  exact ⟨same, proper.erase, gone⟩

/-- **After a new file has been made** and found, it is there, and nothing else has changed. -/
theorem Cut.created (cut : Cut { h with files := fs } options root top place own before after)
    (proper' : Proper fs.entries) (stands : Stands h.files.entries h.files.current)
    {bytes : List UInt8} (free : h.files.findLink (pathOf top own) = .error .missing)
    (written : h.files.write (pathOf top own) bytes = .ok fs) :
    Within top own ∧ SameBut (place ++ own) fs h.files ∧
      Entry.at? (place ++ own) h.files.entries = none ∧
      Entry.at? (place ++ own) fs.entries = some (.file bytes false) := by
  obtain ⟨some_name, valid⟩ := cut.valid proper' cut.own_mem
  obtain ⟨parent, name, -, -, there, at_free, is⟩ := FileSystem.created stands free written
  have nothing : ∀ {entry}, Entry.at? (parent ++ [name]) h.files.entries ≠ some entry := by
    intro entry h
    rw [at_free] at h; cases h
  obtain ⟨same, at_spot⟩ := sameBut_put there (fun ⟨_, h⟩ => nothing h) (fun _ => nothing) bytes false
  rw [← is] at same at_spot
  have into : LeadsInto h.files top place := cut.into.alike same.symm
  have within : Within top own := by
    unfold FileSystem.write at written
    rcases hreach : h.files.reach .create (pathOf top own) with t | target
    · rw [hreach] at written; cases written
    · exact into.within_of_reach some_name valid hreach
  -- were the file found somewhere else, it would have been there before
  have spot : place ++ own = parent ++ [name] := by
    refine Decidable.byContradiction fun other => ?_
    obtain ⟨data, executable, found⟩ := cut.found
    have before : Entry.at? (place ++ own) h.files.entries = some (.file data executable) := by
      refine at?_of_leafAt ?_
      rw [← same.leaves _ other]
      unfold leafAt
      rw [found]
    obtain ⟨-, reaches⟩ | ⟨long, -⟩ := into.reach_cases some_name valid .lookAtLink before
    · unfold FileSystem.findLink at free
      rw [reaches] at free
      cases free
    · exact long within
  rw [spot]
  exact ⟨within, same.symm, at_free, at_spot⟩

end GoWorkbench.Scan
