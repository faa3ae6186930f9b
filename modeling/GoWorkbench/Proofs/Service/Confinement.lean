/-
  A scan stays inside its root.

  A scan starts where the text of its root leads once `.` and `..` have been taken out of it, and
  what it yields is told to lie in the root by links and places.  The two are the same directory
  unless the path goes up from a link.

  1. **Upright paths** — where each `..` goes back out of a directory that the name before it has
     entered, the text leads where the path does (`startsIn_of_upright`); so it does where there is
     no `..` (`upright_of_downward`).
  2. **Confined files** — what is found below a top is where its path leads (`SourceAt.followed`), so
     it lies in the root if the scan starts there, and is told to (`SourceAt.confined`).
  3. **Confinement** — so a scan of a root with such a path stays in the root, whatever rules it
     goes by, and so does every symbol that it finds (`scan_confined`).
  4. **Escapes** — a root that goes up from a link is not where the scan of it looks
     (`scan_escapes`).
-/
import GoWorkbench.Proofs.Service.Triggers

namespace GoWorkbench

open Entry

namespace FileSystem

variable {fs : FileSystem} {depth : Nat} {root path name : String} {here there top : Place}
  {names todo : List String} {entry : Entry}

/-! ## Upright paths -/

/-- What has been entered is a directory where the names before it have been followed to. -/
theorem Entered.followed (entered : Entered fs (name :: names))
    (on : Follows fs depth .root names.reverse here) :
    ∃ inner, Entry.child? name (fs.entriesAt here) = some (.directory inner) := by
  obtain ⟨-, left, place, inner, before, found⟩ := entered
  obtain rfl := on.unique (follows_of_walk (before.walk false))
  exact ⟨inner, found⟩

/-- **Upright walks**: the names that are left lead where the components lead. -/
theorem Retraces.followed (proper : Proper fs.entries) (h : Retraces fs names todo)
    (on : Follows fs depth .root names.reverse here) (leads : Follows fs depth here todo there) :
    Follows fs depth .root (leftOver names todo).reverse there := by
  induction h generalizing here with
  | done =>
    cases leads
    exact on
  | stays _ ih => exact ih on leads.of_stays
  | onward solid _ ih =>
    obtain ⟨between, through, back⟩ := follows_cons.mp leads
    rw [leftOver_name solid]
    refine ih ?_ back
    rw [List.reverse_cons]
    exact on.append through
  | @back names rest name entered _ ih =>
    have solid := entered.solid proper
    rw [List.reverse_cons] at on
    obtain ⟨between, front, last⟩ := on.split
    obtain ⟨inner, found⟩ := entered.followed front
    have no_link : ∀ target, Entry.child? name (fs.entriesAt between) ≠ some (.link target) := by
      intro target is
      rw [found] at is
      cases is
    -- to enter the directory and to go back is to stay
    cases last.of_onward solid.2.1 solid.2.2 no_link
    have back := leads.of_rises
    rw [parent_step between solid.2.2] at back
    rw [leftOver_back solid]
    exact ih front back
  | root _ ih =>
    cases on
    exact ih .done leads.of_rises

theorem retraces_of_downward (solid : ∀ n ∈ todo, n ≠ "" ∧ n ≠ "..") : Retraces fs names todo := by
  induction todo generalizing names with
  | nil => exact .done
  | cons name rest ih =>
    obtain ⟨⟨nonempty, not_dots⟩, solid_rest⟩ := List.forall_mem_cons.mp solid
    by_cases dot : name = "."
    · subst dot
      exact .stays (ih solid_rest)
    · exact .onward ⟨nonempty, dot, not_dots⟩ (ih solid_rest)

/-- Each `..` of the path goes back out of a directory that the name before it has entered. -/
def Upright (fs : FileSystem) (path : String) : Prop :=
  Retraces fs (if Path.isAbsolute path then [] else fs.current.names.reverse) (components path)

/-- So it does in a path without any. -/
theorem upright_of_downward (downward : ∀ n ∈ components path, n ≠ "..") : fs.Upright path :=
  retraces_of_downward fun n part => ⟨(of_mem_components part).2.1, downward n part⟩

/-- A scan of the root starts at the place: the path of the root leads there still when `.` and
    `..` have been taken out of its text. -/
def StartsIn (fs : FileSystem) (root : String) (top : Place) : Prop :=
  ∀ start, fs.absolute (Path.plain root) = .ok start → fs.FollowedTo start top

/-- **Upright paths** lead where their text does. -/
theorem startsIn_of_upright (orderly : fs.Orderly) (upright : fs.Upright root)
    (no_nul : '\x00' ∉ root.toList) (leads : fs.FollowedTo root top) : fs.StartsIn root top := by
  intro start is
  have anchored : fs.Anchored root := anchored_plain.mp (anchored_of_absolute is)
  obtain ⟨text, also, named⟩ :=
    absolute_leads orderly.names (nul_not_mem_plain no_nul) (anchored_plain.mpr anchored)
  obtain rfl := Except.ok.inj (is.symm.trans also)
  rw [spot_plain, spot_eq_leftOver orderly.names] at named
  obtain ⟨depth, leads⟩ := leads
  refine ⟨depth, ?_⟩
  rw [if_pos named.absolute, named.components]
  refine Retraces.followed orderly.proper upright ?_ leads
  by_cases absolute : Path.isAbsolute root = true
  · rw [if_pos absolute, if_pos absolute]
    exact .done
  · rw [if_neg absolute, if_neg absolute, List.reverse_reverse]
    have whole := anchored.resolve_left absolute
    obtain ⟨inner, there⟩ := orderly.stands.dirAt whole
    have names := orderly.names
    generalize fs.current = place at whole there names ⊢
    obtain ⟨route, gone⟩ := place
    obtain rfl : gone = 0 := whole
    show Follows fs depth ⟨[], 0⟩ route ⟨[] ++ route, 0⟩
    exact follows_names (fun n listed => solid_of_isName (names n listed))
      (unlinked_of_at? there nofun)

/-- No link is overlooked on the path of the root, and none where the scan of it starts. -/
def Clear (fs : FileSystem) (root : String) : Prop :=
  fs.Sighted root ∧ ∀ start, fs.absolute (Path.plain root) = .ok start → fs.Sighted start

end FileSystem

open FileSystem

namespace Scan

variable {h : Host} {options : Options} {root file start : String} {top : Place}
  {place own files : List String} {inner : List (String × Entry)}

/-! ## Confined files -/

/-- The path of a source below a top leads to the names of the source. -/
theorem SourceAt.followed (source : SourceAt h root file start place own) :
    h.files.FollowedTo file ⟨place ++ own, 0⟩ := by
  obtain ⟨inner, finds⟩ := source.finds
  obtain ⟨data, executable, there⟩ := source.there
  obtain ⟨depth, leads⟩ := followedTo_of_find finds
  obtain ⟨absolute, parts, -⟩ :=
    join_slashed source.into.ne_empty source.some_name source.valid
  refine ⟨depth, ?_⟩
  rw [source.file_is]
  unfold pathOf
  rw [absolute, source.into.absolute, if_pos rfl, parts]
  rw [source.into.absolute, if_pos rfl] at leads
  exact leads.append (follows_names (fun n listed => solid_of_isName (source.valid n listed))
    (unlinked_of_at? there nofun))

/-- Its links can be looked at if those on the path of the top can. -/
theorem SourceAt.sighted (source : SourceAt h root file start place own)
    (sighted : h.files.Sighted start) : h.files.Sighted file := by
  obtain ⟨inner, finds⟩ := source.finds
  obtain ⟨data, executable, there⟩ := source.there
  obtain ⟨depth, r, traces, is⟩ := sighted.traced (followedTo_of_find finds)
  obtain ⟨absolute, parts, -⟩ :=
    join_slashed source.into.ne_empty source.some_name source.valid
  have unlinked : Unlinked h.files ⟨(h.files.placeOf r).names ++ own, 0⟩ := by
    rw [is]
    exact unlinked_of_at? there nofun
  obtain ⟨below, -⟩ := @traces_names h.files depth own r
    (fun n listed => solid_of_isName (source.valid n listed)) unlinked (by rw [is])
  rw [source.file_is]
  exact sighted_of_traces absolute parts (traces.append below)

/-- The file is one below the directory of the root: its path leads there, and an operating system
    opens it by that unless it is too long.  And it is told to be within the root if no link is
    overlooked. -/
structure Confined (fs : FileSystem) (root file : String) (top : Place)
    (inner : List (String × Entry)) : Prop where
  within : fs.Clear root → fs.isWithin file root = .ok true
  below : ∃ own data executable, own ≠ [] ∧
    Entry.at? own inner = some (.file data executable) ∧
    fs.FollowedTo file ⟨top.names ++ own, 0⟩ ∧
    (Passable file → fs.find file = .ok (⟨top.names ++ own, 0⟩, .file data executable))

/-- **Confined files**: a source below the place where the scan starts lies in the root. -/
theorem SourceAt.confined (orderly : h.files.Orderly)
    (opens : h.files.find root = .ok (top, .directory inner)) (starts : h.files.StartsIn root top)
    (source : SourceAt h root file start place own) : Confined h.files root file top inner := by
  have absolute := source.top_absolute
  obtain ⟨_, finds⟩ := source.finds
  obtain rfl := (starts start absolute).unique (followedTo_of_find finds)
  obtain ⟨data, executable, there⟩ := source.there
  have followed := source.followed
  have sighted := source.sighted
  obtain rfl := source.file_is
  obtain ⟨starts_at_root, parts, -⟩ :=
    join_slashed source.into.ne_empty source.some_name source.valid
  refine ⟨fun clear => ?_, own, data, executable, source.some_name, ?_, followed,
    fun passable => ?_⟩
  · have form_root : h.files.canonicalNames (Path.plain root) = .ok place :=
      canonicalNames_anchored orderly (anchored_plain.mp (anchored_of_absolute absolute)) clear.1
        opens
    have form : h.files.canonicalNames (Path.plain (pathOf start own)) = .ok (place ++ own) := by
      have no_nul := nul_not_mem_pathOf source.into.no_nul source.valid
      rcases canonicalNames_of_traced orderly (nul_not_mem_plain no_nul)
        (tracedTo_plain.mpr ((sighted (clear.2 start absolute)).traced followed)) with
        ⟨-, form⟩ | ⟨adrift, -⟩
      · exact form
      · exact absurd (anchored_plain.mpr (Or.inl (starts_at_root.trans source.into.absolute)))
          adrift
    unfold isWithin
    rw [form_root, form]
    exact congrArg Except.ok (List.isPrefixOf_iff_prefix.mpr ⟨own, rfl⟩)
  · have reaches := reach_of_find opens
    obtain ⟨-, rfl⟩ := arrives_of_walk (((reach_eq_walk reaches).2 .look).symm.trans reaches)
    rw [at?_entriesAt source.some_name]
    exact there
  · have within : Within start own := by
      refine ⟨passable.short, fun n listed => passable.names n ?_⟩
      unfold pathOf
      rw [parts]
      exact List.mem_append_right _ listed
    obtain ⟨-, reaches⟩ | ⟨long, -⟩ :=
      source.into.reach_cases source.some_name source.valid .look there
    · unfold FileSystem.find
      rw [reaches]
    · exact absurd within long

/-! ## Confinement -/

theorem confined_of_scanned {read : Host → String → Except Failure Matcher}
    (orderly : h.files.Orderly) (opens : h.files.find root = .ok (top, .directory inner))
    (starts : h.files.StartsIn root top)
    (scanned : sourceFilesBy read h options root = .ok files) (found : file ∈ files) :
    Confined h.files root file top inner := by
  obtain ⟨start, place, own, source⟩ := source_of_scanned orderly.proper scanned found
  exact source.confined orderly opens starts

/-- **Confinement**: what a scan yields lies in its root, whatever rules the scan goes by, and so
    does every symbol that it finds, if the scan starts in the directory that the path of the root
    leads to; and it does if each `..` of the path goes back out of a directory that the name before
    it has entered, or if there is none.  It is told to lie there if no link is overlooked. -/
theorem scan_confined (orderly : h.files.Orderly)
    (opens : h.files.find root = .ok (top, .directory inner)) :
    ((∀ n ∈ components root, n ≠ "..") → h.files.Upright root) ∧
      (h.files.Upright root → h.files.StartsIn root top) ∧
      (h.files.StartsIn root top →
        (∀ read files, sourceFilesBy read h options root = .ok files →
          ∀ file ∈ files, Confined h.files root file top inner) ∧
        ∀ found, symbols h options root = .ok found →
          ∀ symbol ∈ found, Confined h.files root symbol.path top inner) := by
  refine ⟨upright_of_downward, fun upright => ?_, fun starts => ⟨?_, ?_⟩⟩
  · exact startsIn_of_upright orderly upright (no_nul_of_find opens) (followedTo_of_find opens)
  · intro read files scanned file found
    exact confined_of_scanned orderly opens starts scanned found
  · intro found finds symbol mem
    obtain ⟨files, scanned, paths⟩ := path_of_mem_symbols finds
    exact confined_of_scanned orderly opens starts scanned (paths symbol mem)

open Service (serving linkedFiles orderly_linkedFiles entered_d leadsTo_x passable_x find_up find_w)

/-- A path that goes into a directory and out of it again is one of the directory around it. -/
theorem scan_confined_back : linkedFiles.Orderly ∧ linkedFiles.Upright "d//.." ∧
    linkedFiles.Clear "d//.." ∧ Yields (serving linkedFiles).host {} "d//.." "/w/d/x.go" ∧
    ∃ inner, linkedFiles.find "d//.." = .ok (⟨["w"], 0⟩, .directory inner) ∧
      Confined linkedFiles "d//.." "/w/d/x.go" ⟨["w"], 0⟩ inner ∧
      linkedFiles.isWithin "/w/d/x.go" "d//.." = .ok true := by
  have upright : linkedFiles.Upright "d//.." :=
    .onward ⟨by decide, by decide, by decide⟩ (.back entered_d .done)
  have arrives : Arrives linkedFiles maxLinks ⟨["w"], 0⟩ ["d", ".."] maxLinks ⟨["w"], 0⟩ :=
    .enters ⟨by decide, by decide, by decide⟩ rfl (.rises .done)
  have opens : linkedFiles.find "d//.." = .ok (⟨["w"], 0⟩, .directory _) :=
    find_of_walk (by decide) (by decide) (by decide) rfl rfl rfl (arrives.walk false)
  have route : IsRoute ({} : Options).skipped ["d", "x.go"] :=
    ⟨by decide, "x.go", rfl, by decide⟩
  have yields : Yields (serving linkedFiles).host {} "d//.." "/w/d/x.go" :=
    yields_of_route orderly_linkedFiles.proper rfl rfl find_w route (fun _ => by decide) rfl
      (by decide)
  have traces : Traces linkedFiles 0 ⟨false, []⟩ ["d", ".."] ⟨false, []⟩ :=
    .onward ⟨by decide, by decide, by decide⟩ nofun (.rises .done)
  have sighted : linkedFiles.Sighted "d//.." :=
    sighted_of_traces rfl (rfl : components "d//.." = ["d", ".."]) traces
  have clear : linkedFiles.Clear "d//.." := by
    have top_is : linkedFiles.absolute (Path.plain "d//..") = .ok "/w" := rfl
    refine ⟨sighted, fun start is => ?_⟩
    obtain rfl := Except.ok.inj (top_is.symm.trans is)
    exact Service.leadsTo_w.sighted
      (rfl : Entry.at? ["w"] linkedFiles.entries = some (.directory _)) nofun
  obtain ⟨files, scanned, found⟩ := yields
  obtain ⟨-, starts, confined⟩ :=
    scan_confined (h := (serving linkedFiles).host) orderly_linkedFiles opens
  obtain ⟨below, -⟩ := confined (starts upright)
  have lies := below _ files scanned _ found
  exact ⟨orderly_linkedFiles, upright, clear, ⟨files, scanned, found⟩, _, opens, lies,
    lies.within clear⟩

/-! ## Escapes -/

/-- **Escapes**: the root is one directory, and the scan of it yields a file of another. -/
theorem scan_escapes : linkedFiles.find "/w/link/.." = .ok (⟨["w", "d"], 0⟩,
      .directory [("sub", .directory []), ("x.go", .file [100] false)]) ∧
    Yields (serving linkedFiles).host {} "/w/link/.." "/w/x.go" ∧
    linkedFiles.isWithin "/w/x.go" "/w/link/.." = .ok false ∧
    ¬ ∃ below, linkedFiles.FollowedTo "/w/x.go" ⟨["w", "d"] ++ below, 0⟩ := by
  have found : linkedFiles.find "/w/x.go" = .ok (⟨["w", "x.go"], 0⟩, .file [119] false) :=
    leadsTo_x.find passable_x rfl (fits_file _ _)
  have route : IsRoute ({} : Options).skipped ["x.go"] := ⟨by decide, "x.go", rfl, by decide⟩
  refine ⟨find_up, ?_, ?_, ?_⟩
  · exact yields_of_route orderly_linkedFiles.proper rfl rfl find_w route nofun rfl (by decide)
  · have below : Traces linkedFiles 0 ⟨true, ["w"]⟩ ["d", "sub"] ⟨true, ["sub", "d", "w"]⟩ :=
      .onward ⟨by decide, by decide, by decide⟩ nofun
        (.onward ⟨by decide, by decide, by decide⟩ nofun .done)
    have sighted_root : linkedFiles.Sighted "/w/link/.." :=
      sighted_of_traces rfl (rfl : components "/w/link/.." = ["w", "link", ".."]) <|
        .onward ⟨by decide, by decide, by decide⟩ nofun
          (.through ⟨by decide, by decide, by decide⟩ rfl (by decide) below (.rises .done))
    unfold isWithin
    rw [canonicalNames_anchored orderly_linkedFiles (Or.inl rfl) sighted_root find_up,
      canonicalNames_anchored orderly_linkedFiles (Or.inl rfl)
        (leadsTo_x.sighted (rfl : Entry.at? _ linkedFiles.entries = some (.file [119] false)) nofun)
        found]
    rfl
  · rintro ⟨below, leads⟩
    have is : ["w", "d"] ++ below = ["w", "x.go"] :=
      congrArg Place.names (leads.unique (followedTo_of_find found))
    exact absurd (List.cons.inj (List.cons.inj is).2).1 (by decide)

end Scan

end GoWorkbench
