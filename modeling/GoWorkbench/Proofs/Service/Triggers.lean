/-
  A write that changes a source of the workspace is noted.

  Two judges must agree.  A scan of the workspace goes by the names that it meets on its way down
  from its top.  The note of a write goes by the path of the write: by its ending, and by whether
  its link-free form lies in that of the workspace.

  1. **Sources** — a file that a scan yields lies below the top of the scan, and has a name that
     ends in `.go` (`Scan.source_of_scanned`).
  2. **Changes** — only the file that the path of the write leads to is changed
     (`SourceAt.eq_spot`), and unless that path is a link it ends as the name of the file does
     (`isGoSource_of_written`).
  3. **Completeness** — so the write is noted, and a rebuild scheduled, by whoever made it
     (`changes_noted`).
  4. **Unnoted writes** — a link that does not end in `.go` is another name for a source, a path
     from a working directory that is gone lies nowhere, a workspace whose path goes up from a link
     is not where the scan of it looks, and a link may be met on a path too long to look at it
     (`change_unnoted`).
-/
import GoWorkbench.Proofs.FileSystem.Containment
import GoWorkbench.Proofs.FileSystem.Keeping
import GoWorkbench.Proofs.FileSystem.Spelling
import GoWorkbench.Proofs.FileSystem.Straight
import GoWorkbench.Proofs.Scan.FileByFile
import GoWorkbench.Proofs.Service.Activation
import GoWorkbench.Proofs.Service.Targets
import GoWorkbench.Proofs.Service.Writes

namespace GoWorkbench

open Entry FileSystem

/-! ## Sources -/

namespace Scan

variable {h : Host} {options : Options} {root file : String}

/-- A scan of the root yields the file. -/
def Yields (h : Host) (options : Options) (root file : String) : Prop :=
  ∃ sources, sourceFiles h options root = .ok sources ∧ file ∈ sources

/-- The top of a scan of the root leads to `place`, and from there the names `own` lead to the
    file, which has the name of a source. -/
structure SourceAt (h : Host) (root file top : String) (place own : List String) : Prop where
  top_is : h.absolute (Path.plain root) = .ok top
  finds : ∃ inner, h.files.find top = .ok (⟨place, 0⟩, .directory inner)
  into : LeadsInto h.files top place
  file_is : file = pathOf top own
  some_name : own ≠ []
  valid : ∀ n ∈ own, IsName n
  named : ∃ name, own.getLast? = some name ∧ Path.isGoSource name = true
  there : ∃ data executable,
    Entry.at? (place ++ own) h.files.entries = some (.file data executable)

/-- A file that is found is a source below the top of the scan. -/
theorem source_of_scanned {read : Host → String → Except Failure Matcher} {files : List String}
    (proper : Proper h.files.entries) (scanned : sourceFilesBy read h options root = .ok files)
    (found : file ∈ files) : ∃ top place own, SourceAt h root file top place own := by
  obtain ⟨top, matcher, top_is, below⟩ := below_of_scanned scanned
  obtain ⟨place, into, reaches, -, sources_are⟩ :=
    place_of_found (isAbsolute_top top_is) below found
  rw [sources_are] at found
  obtain ⟨own, kept_own, rfl⟩ := List.mem_map.mp found
  obtain ⟨route, -, there⟩ := (mem_sourcesIn_entriesAt proper).mp (List.mem_filter.mp kept_own).1
  obtain ⟨data, holds⟩ := Option.isSome_iff_exists.mp there
  obtain ⟨executable, found_at⟩ := fileAt_eq_some.mp holds
  refine ⟨top, place, own, top_is, ⟨h.files.entriesAt ⟨place, 0⟩, ?_⟩, into, rfl,
    route.ne_nil, fun n hn => ?_, route.named, data, executable, found_at⟩
  · unfold FileSystem.find
    rw [reaches]
  · exact proper.isName_of_at? found_at n (List.mem_append_right _ hn)

theorem Yields.source (proper : Proper h.files.entries) (yields : Yields h options root file) :
    ∃ top place own, SourceAt h root file top place own := by
  obtain ⟨sources, scanned, found⟩ := yields
  exact source_of_scanned proper scanned found

/-- Without rules, whatever has the name and the place of a source is yielded. -/
theorem yields_of_route {top : String} {place own : List String}
    {inner : List (String × Entry)} (proper : Proper h.files.entries)
    (no_rules : options.respectIgnore = false) (top_is : h.absolute (Path.plain root) = .ok top)
    (found : h.files.find top = .ok (⟨place, 0⟩, .directory inner))
    (route : IsRoute options.skipped own) (listed : IsListed top own)
    (there : (fileAt (place ++ own) h.files.entries).isSome) (file_is : pathOf top own = file) :
    Yields h options root file := by
  have opens : h.files.list top = .ok inner := by
    unfold FileSystem.list
    rw [found]
  obtain ⟨-, -, is⟩ := leadsInto_of_reach (isAbsolute_top top_is) (reach_of_find found)
  have none_wanted : hasRules h options (Path.plain root) = .ok false := by
    unfold hasRules
    rw [no_rules]
    rfl
  refine ⟨_, sourceFiles_eq_ok.mpr ⟨false, none_wanted, _, rfl, top, top_is,
    (filesBelow_eq_ok opens).mpr ⟨fun _ _ => ⟨false, rfl⟩, rfl⟩⟩, ?_⟩
  refine List.mem_map.mpr ⟨own, List.mem_filter.mpr ⟨?_, rfl⟩, file_is⟩
  rw [is]
  exact (mem_sourcesIn_entriesAt proper).mpr ⟨route, listed, there⟩

/-- The file has the content that it had, or none as before. -/
def SameContent (fs fs' : FileSystem) (file : String) : Prop :=
  ∀ content, fs'.read file = .ok content ↔ fs.read file = .ok content

/-- A file has changed where it can be read before and after, and not the same is read. -/
theorem changed_of_reads {fs fs' : FileSystem} {before behind : List UInt8}
    (reads : fs.read file = .ok before) (reads' : fs'.read file = .ok behind)
    (differ : before ≠ behind) : ¬ SameContent fs fs' file := by
  intro same
  have is := (same before).mpr reads
  rw [reads'] at is
  exact differ (Except.ok.inj is).symm

/-- A source whose content has changed is the file at the spot. -/
theorem SourceAt.eq_spot {fs : FileSystem} {top : String} {spot place own : List String}
    (source : SourceAt h root file top place own) (same : SameBut spot h.files fs)
    (changed : ¬ SameContent h.files fs file) : place ++ own = spot := by
  by_contra elsewhere
  obtain ⟨data, executable, found⟩ := source.there
  have stays : Entry.at? (place ++ own) fs.entries = some (.file data executable) := by
    refine at?_of_leafAt ?_
    rw [same.leaves _ elsewhere]
    unfold leafAt
    rw [found]
  refine changed fun content => ?_
  rw [source.file_is, source.into.read_eq_ok source.some_name source.valid found,
    (source.into.alike same).read_eq_ok source.some_name source.valid stays]

theorem SourceAt.top_absolute {top : String} {place own : List String}
    (source : SourceAt h root file top place own) :
    h.files.absolute (Path.plain root) = .ok top := by
  have top_is := source.top_is
  unfold Host.absolute at top_is
  split at top_is
  · rename_i text is
    rw [is, Except.ok.inj top_is]
  · cases top_is

end Scan

namespace FileSystem

variable {fs fs' : FileSystem} {path root : String} {data : List UInt8} {spot : List String}
  {top : Place} {inner : List (String × Entry)}

/-- A scan of the root starts at the place: the path of the root leads there still when `.` and
    `..` have been taken out of its text. -/
def StartsAt (fs : FileSystem) (root : String) (top : Place) : Prop :=
  ∀ start, fs.absolute (Path.plain root) = .ok start →
    ∃ inner, fs.find start = .ok (top, .directory inner)

/-- It does so if the path starts at the root and does not go up again. -/
theorem startsAt_of_downward (absolute : Path.isAbsolute root = true)
    (downward : ∀ n ∈ components root, n ≠ "..")
    (short : ∀ start, fs.absolute (Path.plain root) = .ok start → start.utf8ByteSize ≤ maxPath)
    (found : fs.find root = .ok (top, .directory inner)) : fs.StartsAt root top := by
  have no_nul := no_nul_of_find found
  obtain ⟨starts, -⟩ := plain_components root
  have plain_absolute : Path.isAbsolute (Path.plain root) = true := starts.trans absolute
  have leads : LeadsTo (Path.normalize (Path.plain root)) (fs.spot (Path.plain root)) :=
    leadsTo_normalize plain_absolute (nul_not_mem_plain no_nul)
  -- nothing has been taken out of the path but its dots
  have spot_is : fs.spot (Path.plain root) = dotless (components root) := by
    have names : ∀ n ∈ dotless (components root), IsName n := by
      intro n hn
      obtain ⟨part, not_dot⟩ := List.mem_filter.mp hn
      obtain ⟨of_path, nonempty, no_slash⟩ := of_mem_components part
      exact ⟨nonempty, by simpa using not_dot, downward n part, no_slash,
        fun h => no_nul (Path.mem_of_mem_parts of_path h).1⟩
    rw [spot_plain, spot_of_absolute absolute, lead_root, ← steps_without_dots]
    exact (steps_names names).trans (List.nil_append _)
  intro start is
  refine ⟨inner, ?_⟩
  have short := short start is
  unfold FileSystem.absolute at is
  rw [if_pos plain_absolute] at is
  obtain rfl := Except.ok.inj is
  refine find_respelled leads.no_nul leads.ne_empty short (leads.absolute.trans absolute.symm) ?_
    found
  rw [leads.components, spot_is]
  simp [dotless, List.filter_filter]

/-! ## Changes -/

theorem StartsAt.alike (starts : fs.StartsAt root top) (same : SameBut spot fs fs') :
    fs'.StartsAt root top := by
  intro start is
  unfold FileSystem.absolute workingDirectory at is
  rw [same.current] at is
  obtain ⟨inner, found⟩ := starts start is
  exact find_directory_alike same found

/-- **Names**: what has been written through a path that is no link has the last name of the
    path. -/
theorem isGoSource_of_written {executable : Bool} (written : fs.write path data = .ok fs')
    (found : fs'.find path = .ok (⟨spot, 0⟩, .file data executable)) (same : SameBut spot fs fs')
    (no_link : fs.isLink path = false)
    (named : ∃ name, spot.getLast? = some name ∧ Path.isGoSource name = true) :
    Path.isGoSource path = true := by
  have plain := no_slash_of_write written
  have reaches := reach_of_find found
  obtain ⟨-, walks⟩ := reach_eq_walk reaches
  have walked := (walks .look).symm.trans reaches
  cases walk_endsIn plain walked with
  | link looked =>
    have is_link : fs'.isLink path = true := by
      unfold FileSystem.isLink FileSystem.findLink
      rw [reach_elsewhere reaches, plain, looked]
    rw [Scan.isLink_alike same, no_link] at is_link
    cases is_link
  | file last looked =>
    obtain ⟨name, is, go⟩ := named
    rw [is] at last
    obtain ⟨before, parts⟩ := List.getLast?_eq_some_iff.mp last
    rw [isGoSource_of_components parts plain]
    exact go

end FileSystem

namespace Service

variable {s after : Service} {root path file : String} {data : List UInt8} {files : FileSystem}
  {options : Scan.Options} {top : Place} {inner : List (String × Entry)}

/-- A source that a write has changed is what the path of the write leads to, and lies below the
    root. -/
theorem exists_below {spot : List String} (orderly : s.host.files.Orderly)
    (starts : s.host.files.StartsAt root top) (same : SameBut spot s.host.files files)
    (yields : Scan.Yields s.host options root file)
    (changed : ¬ Scan.SameContent s.host.files files file) :
    s.host.files.Anchored root ∧ top.names <+: spot ∧
      ∃ name, spot.getLast? = some name ∧ Path.isGoSource name = true := by
  obtain ⟨start, place, own, source⟩ := yields.source orderly.proper
  obtain ⟨inner, found⟩ := starts start source.top_absolute
  obtain ⟨inner', found'⟩ := source.finds
  rw [found] at found'
  cases found'
  obtain ⟨name, last, go⟩ := source.named
  obtain rfl := source.eq_spot same changed
  refine ⟨?_, ⟨own, rfl⟩, name, ?_, go⟩
  · have anchored := anchored_of_absolute source.top_absolute
    unfold Anchored at anchored ⊢
    rwa [(plain_components root).1] at anchored
  · rw [List.getLast?_append, last, Option.some_or]

/-! ## Completeness -/

/-- That the bytes have been written to the path is noted, and a rebuild of the root scheduled, by
    whoever has written them: a note of the write says so, a save ends with it, and so does a run of
    the file whose child has left all files alone. -/
structure NotesWrite (s : Service) (root path : String) (data : List UInt8) (files : FileSystem) :
    Prop where
  noted : ∀ after : Service, after.host.files = files → after.workspace = some root →
    after.noteWritten path = (.ok true, after.schedule root)
  saved : ∀ content, content.encode = .ok data →
    s.save path content =
      (.ok (), { s with host := { s.host with files } : Service }.schedule root)
  run : ∀ (after : Service) (run : PendingRun) (ending : Ending) raw error,
    after.host.files = files → after.workspace = some root → run.file = path →
    run.isScratch = false → ending.outcome = .ok (raw, error) →
    ∃ result, after.finishRun run ending =
      (.ok result, (after.reportEnding run.launch.program ending).schedule root)

/-- What is noted of a write is noted by a save and a run. -/
theorem NotesWrite.of_noted (active : s.workspace = some root)
    (written : s.host.files.write path data = .ok files)
    (noted : ∀ after : Service, after.host.files = files → after.workspace = some root →
      after.noteWritten path = (.ok true, after.schedule root)) :
    NotesWrite s root path data files where
  noted := noted
  saved := by
    intro content encodes
    unfold save writeText Host.write
    rw [encodes]
    dsimp only
    rw [show Breach.kept none data = data from rfl, written]
    have note := noted { s with host := { s.host with files } } rfl active
    dsimp only
    rw [note]
  run := by
    rintro after run ending raw error rfl still rfl own outcome
    obtain ⟨keeps, same⟩ := reportEnding_files after run.launch.program ending
    have reported := noted _ same (keeps.workspace.trans still)
    unfold finishRun settleRun
    rw [outcome, own]
    dsimp only
    rw [if_neg Bool.false_ne_true, if_neg Bool.false_ne_true, reported]
    exact ⟨_, rfl⟩

/-- **Completeness**: where a write changes the content of a source of the workspace, it is noted
    and a rebuild is scheduled — if the path of the write ends in `.go` or is no link, if it does
    not start in a working directory that is gone, if the scan of the workspace starts in the
    directory that its path leads to, and if no link is met on a path too long to look at it. -/
theorem changes_noted (orderly : s.host.files.Orderly) (active : s.workspace = some root)
    (opens : s.host.files.find root = .ok (top, .directory inner))
    (starts : s.host.files.StartsAt root top) (anchored : s.host.files.Anchored path)
    (sighted : s.host.files.Sighted path) (sighted_root : s.host.files.Sighted root)
    (spelled : Path.isGoSource path = true ∨ s.host.files.isLink path = false)
    (written : s.host.files.write path data = .ok files)
    (yields : Scan.Yields s.host options root file ∨
      Scan.Yields { s.host with files } options root file)
    (changed : ¬ Scan.SameContent s.host.files files file) :
    NotesWrite s root path data files := by
  have stored := stored_of_write orderly written
  obtain ⟨spot, executable, found, same⟩ := stored.found
  -- the scan that yields the source may be of the files before the write or after it
  obtain ⟨anchored_root, below, named⟩ : s.host.files.Anchored root ∧ top.names <+: spot ∧
      ∃ name, spot.getLast? = some name ∧ Path.isGoSource name = true := by
    rcases yields with yields | yields
    · exact exists_below orderly starts same yields changed
    · have back : ¬ Scan.SameContent files s.host.files file := fun keeps =>
        changed fun content => (keeps content).symm
      have lies := @exists_below { s with host := { s.host with files } } root file s.host.files
        options top spot stored.orderly (starts.alike same) same.symm yields back
      unfold Anchored at lies ⊢
      rwa [← same.current]
  have go : Path.isGoSource path = true :=
    spelled.elim id fun no_link => isGoSource_of_written written found same no_link named
  have inside : files.isWithin path root = .ok true := by
    obtain ⟨inner', found_root⟩ := find_directory_alike same opens
    unfold Anchored at anchored anchored_root
    rw [← same.current] at anchored anchored_root
    unfold FileSystem.isWithin
    rw [canonicalNames_anchored stored.orderly anchored_root (sighted_root.alike same) found_root,
      canonicalNames_anchored stored.orderly anchored (sighted.alike same) found]
    exact congrArg Except.ok (List.isPrefixOf_iff_prefix.mpr below)
  refine .of_noted active written fun after is still => ?_
  have due : after.rebuildDue path = .ok (some root) := by
    unfold rebuildDue Host.isWithin
    rw [still, go, is]
    dsimp only
    rw [inside]
    rfl
  unfold noteWritten
  rw [due]

/-- `linkedFiles` after a write to `/w/d/x.go`. -/
def linkedBelow : FileSystem where
  entries := [("w", .directory [
    ("d", .directory [("sub", .directory []), ("x.go", .file [120] false)]),
    ("link", .link "d/sub"),
    ("x.go", .file [119] false)])]
  current := ⟨["w"], 0⟩

theorem leadsTo_w : LeadsTo "/w" ["w"] := ⟨rfl, rfl, by decide⟩

theorem find_w : linkedFiles.find "/w" = .ok (⟨["w"], 0⟩, .directory [
    ("d", .directory [("sub", .directory []), ("x.go", .file [100] false)]),
    ("link", .link "d/sub"),
    ("x.go", .file [119] false)]) :=
  leadsTo_w.find (leadsTo_w.passable (by decide) (by decide)) rfl (fits_directory _ _)

/-- `..` goes up from where the link leads. -/
theorem arrives_up (links : Nat) :
    Arrives linkedFiles (links + 1) ⟨["w"], 0⟩ ["link", ".."] links ⟨["w", "d"], 0⟩ :=
  .follows ⟨by decide, by decide, by decide⟩
    (rfl : Entry.child? "link" (linkedFiles.entriesAt ⟨["w"], 0⟩) = some (.link "d/sub"))
    (.enters ⟨by decide, by decide, by decide⟩ rfl
      (.enters ⟨by decide, by decide, by decide⟩ rfl (.rises .done)))

theorem changes_noted_linked : linkedFiles.Orderly ∧
    linkedFiles.StartsAt "/w" ⟨["w"], 0⟩ ∧ linkedFiles.Anchored "link/../x.go" ∧
    linkedFiles.Sighted "link/../x.go" ∧ linkedFiles.Sighted "/w" ∧
    linkedFiles.write "link/../x.go" [120] = .ok linkedBelow ∧
    Scan.Yields (serving linkedFiles).host {} "/w" "/w/d/x.go" ∧
    ¬ Scan.SameContent linkedFiles linkedBelow "/w/d/x.go" ∧
    NotesWrite (serving linkedFiles) "/w" "link/../x.go" [120] linkedBelow := by
  have starts : linkedFiles.StartsAt "/w" ⟨["w"], 0⟩ :=
    startsAt_of_downward rfl (by decide) (by rintro start ⟨⟩; decide) find_w
  have naming : Naming "x.go" := ⟨by decide, by decide, by decide⟩
  have written : linkedFiles.write "link/../x.go" [120] = .ok linkedBelow :=
    write_of_walk (by decide) (by decide) (by decide) rfl rfl rfl
      ((arrives_up 39).walk_file naming rfl .create) rfl
  have route : Scan.IsRoute ({} : Scan.Options).skipped ["d", "x.go"] :=
    ⟨by decide, "x.go", rfl, by decide⟩
  have yields : Scan.Yields (serving linkedFiles).host {} "/w" "/w/d/x.go" :=
    Scan.yields_of_route orderly_linkedFiles.proper rfl rfl find_w route (fun _ => by decide) rfl
      (by decide)
  have leads : LeadsTo "/w/d/x.go" ["w", "d", "x.go"] := ⟨rfl, rfl, by decide⟩
  have passable : Passable "/w/d/x.go" := leads.passable (by decide) (by decide)
  have before : linkedFiles.read "/w/d/x.go" = .ok [100] := leads.read passable rfl (by decide)
  have behind : linkedBelow.read "/w/d/x.go" = .ok [120] := leads.read passable rfl (by decide)
  have changed : ¬ Scan.SameContent linkedFiles linkedBelow "/w/d/x.go" :=
    Scan.changed_of_reads before behind (by decide)
  have below : Traces linkedFiles 0 ⟨false, []⟩ ["d", "sub"] ⟨false, ["sub", "d"]⟩ :=
    .onward ⟨by decide, by decide, by decide⟩ nofun
      (.onward ⟨by decide, by decide, by decide⟩ nofun .done)
  have sighted : linkedFiles.Sighted "link/../x.go" :=
    sighted_of_traces rfl (rfl : components "link/../x.go" = ["link", "..", "x.go"]) <|
      .through ⟨by decide, by decide, by decide⟩ rfl (by decide) below
        (.rises (.onward ⟨by decide, by decide, by decide⟩ nofun .done))
  have sighted_root : linkedFiles.Sighted "/w" :=
    leadsTo_w.sighted (rfl : Entry.at? ["w"] linkedFiles.entries = some (.directory _)) nofun
  exact ⟨orderly_linkedFiles, starts, Or.inr rfl, sighted, sighted_root, written, yields, changed,
    changes_noted orderly_linkedFiles rfl find_w starts (Or.inr rfl) sighted sighted_root
      (Or.inl (by decide)) written (Or.inl yields) changed⟩

/-! ## Unnoted writes -/

/-- A write to the path changes a source of the root, the active workspace, and nobody schedules a
    rebuild. -/
structure Unnoted (s : Service) (root path file : String) (data : List UInt8)
    (files : FileSystem) : Prop where
  active : s.workspace = some root
  opens : s.host.files.isDirectory root = true
  written : s.host.files.write path data = .ok files
  yields : Scan.Yields s.host {} root file
  changed : ¬ Scan.SameContent s.host.files files file
  unnoted : ({ s with host := { s.host with files } } : Service).noteWritten path =
    (.ok false, { s with host := { s.host with files } })

theorem noteWritten_of_none (none_due : s.rebuildDue path = .ok none) :
    s.noteWritten path = (.ok false, s) := by
  unfold noteWritten
  rw [none_due]

/-! A link that does not end in `.go` is another name for a source. -/

/-- A workspace with a source that has a second name. -/
def aliased (data : List UInt8) : FileSystem :=
  ⟨[("w", .directory [("a.go", .file data false), ("notes.txt", .link "a.go")])], .root⟩

theorem proper_aliased (data : List UInt8) : Proper (aliased data).entries := by
  simp only [aliased, Proper]
  decide

theorem write_alias : (aliased [112]).write "/w/notes.txt" [120] = .ok (aliased [120]) := by
  have arrives : ∀ links, Arrives (aliased [112]) links .root ["w"] links ⟨["w"], 0⟩ :=
    fun links => .enters ⟨by decide, by decide, by decide⟩ rfl .done
  have byName : ByName .create false "notes.txt" [] :=
    ⟨⟨by decide, by decide, by decide⟩, by decide⟩
  have link : Entry.child? "notes.txt" ((aliased [112]).entriesAt ⟨["w"], 0⟩) =
      some (.link "a.go") := rfl
  have walked : (aliased [112]).walk .create false maxLinks .root ["w", "notes.txt"] =
      .ok (.object ⟨["w", "a.go"], 0⟩ (.file [112] false)) := by
    rw [show ["w", "notes.txt"] = ["w"] ++ ["notes.txt"] from rfl,
      (arrives maxLinks).walk_append (by decide), show maxLinks = 39 + 1 from rfl,
      byName.walk_link link (by decide)]
    exact Arrives.done.walk_file ⟨by decide, by decide, by decide⟩ rfl .create
  exact write_of_walk (by decide) (by decide) (by decide) rfl rfl rfl walked rfl

theorem unnoted_alias :
    Unnoted (serving (aliased [112])) "/w" "/w/notes.txt" "/w/a.go" [120] (aliased [120]) := by
  have found : (aliased [112]).find "/w" = .ok (⟨["w"], 0⟩, .directory _) :=
    leadsTo_w.find (leadsTo_w.passable (by decide) (by decide)) rfl (fits_directory _ _)
  have route : Scan.IsRoute ({} : Scan.Options).skipped ["a.go"] :=
    ⟨by decide, "a.go", rfl, by decide⟩
  have reads : ∀ data, (aliased data).read "/w/a.go" = .ok data := fun data =>
    leadsTo_file.read passable_file rfl (by decide)
  exact {
    active := rfl
    opens := isDirectory_of_find found
    written := write_alias
    yields := Scan.yields_of_route (proper_aliased _) rfl rfl found route nofun rfl (by decide)
    changed := Scan.changed_of_reads (reads [112]) (reads [120]) (by decide)
    unnoted := rfl }

/-! The path of the workspace goes up from a link, and the scan of it looks elsewhere. -/

/-- The workspace `/w/link/..` of `linkedFiles` is `/w/d`, but the scan of it starts in `/w`. -/
def servingUp : Service := { serving linkedFiles with workspace := some "/w/link/.." }

theorem find_up : linkedFiles.find "/w/link/.." = .ok (⟨["w", "d"], 0⟩,
    .directory [("sub", .directory []), ("x.go", .file [100] false)]) := by
  have arrives : Arrives linkedFiles maxLinks .root ["w", "link", ".."] 39 ⟨["w", "d"], 0⟩ :=
    .enters ⟨by decide, by decide, by decide⟩ rfl (arrives_up 39)
  exact find_of_walk (by decide) (by decide) (by decide) rfl rfl rfl (arrives.walk false)

theorem isWithin_up : linkedWritten.isWithin "/w/x.go" "/w/link/.." = .ok false := by
  obtain ⟨orderly, spot, executable, found, same⟩ :=
    stored_of_write orderly_linkedFiles write_linkedFiles
  obtain ⟨inner, found_root⟩ := find_directory_alike same find_up
  have found : linkedWritten.find "/w/x.go" = .ok (⟨["w", "x.go"], 0⟩, .file [120] false) :=
    leadsTo_x.find passable_x rfl (fits_file _ _)
  have below : Traces linkedWritten 0 ⟨true, ["w"]⟩ ["d", "sub"] ⟨true, ["sub", "d", "w"]⟩ :=
    .onward ⟨by decide, by decide, by decide⟩ nofun
      (.onward ⟨by decide, by decide, by decide⟩ nofun .done)
  have sighted_root : linkedWritten.Sighted "/w/link/.." :=
    sighted_of_traces rfl (rfl : components "/w/link/.." = ["w", "link", ".."]) <|
      .onward ⟨by decide, by decide, by decide⟩ nofun
        (.through ⟨by decide, by decide, by decide⟩ rfl (by decide) below (.rises .done))
  have sighted : linkedWritten.Sighted "/w/x.go" :=
    leadsTo_x.sighted (rfl : Entry.at? _ linkedWritten.entries = some (.file [120] false)) nofun
  unfold FileSystem.isWithin
  rw [canonicalNames_anchored orderly (Or.inl rfl) sighted_root found_root,
    canonicalNames_anchored orderly (Or.inl rfl) sighted found]
  rfl

theorem unnoted_up : Unnoted servingUp "/w/link/.." "/w/x.go" "/w/x.go" [120] linkedWritten := by
  have route : Scan.IsRoute ({} : Scan.Options).skipped ["x.go"] :=
    ⟨by decide, "x.go", rfl, by decide⟩
  have behind : linkedWritten.read "/w/x.go" = .ok [120] :=
    leadsTo_x.read passable_x rfl (by decide)
  have none_due :
      ({ servingUp with host := (serving linkedWritten).host } : Service).rebuildDue "/w/x.go" =
        .ok none := by
    unfold rebuildDue Host.isWithin
    dsimp only [servingUp, serving]
    rw [isWithin_up]
    rfl
  exact {
    active := rfl
    opens := isDirectory_of_find find_up
    written := write_linkedFiles
    yields :=
      Scan.yields_of_route orderly_linkedFiles.proper rfl rfl find_w route nofun rfl (by decide)
    changed := Scan.changed_of_reads (leadsTo_x.read passable_x rfl (by decide)) behind (by decide)
    unnoted := noteWritten_of_none none_due }

/-! The working directory has been removed, and the path goes up from there. -/

/-- `oneFile`, with relative paths that start in a directory that has been removed from `/w`. -/
def bereft (data : List UInt8) : FileSystem :=
  ⟨[("w", .directory [("a.go", .file data false)])], ⟨["w", "d"], 1⟩⟩

theorem sound_bereft (data : List UInt8) : (bereft data).Sound where
  proper := by
    simp only [bereft, Proper]
    decide
  free := linkFree_of_countLinks (by simp [bereft, countLinks])
  stands := ⟨Nat.le_succ 1, _, rfl⟩
  names := by
    simp only [bereft]
    decide

theorem write_bereft : (bereft [112]).write "../a.go" [120] = .ok (bereft [120]) := by
  -- the parent of a directory that is gone is where it was
  have arrives : Arrives (bereft [112]) maxLinks ⟨["w", "d"], 1⟩ [".."] maxLinks ⟨["w"], 0⟩ :=
    .rises .done
  have naming : Naming "a.go" := ⟨by decide, by decide, by decide⟩
  exact write_of_walk (by decide) (by decide) (by decide) rfl rfl rfl
    (arrives.walk_file naming rfl .create) rfl

theorem unnoted_bereft :
    Unnoted (serving (bereft [112])) "/w" "../a.go" "/w/a.go" [120] (bereft [120]) := by
  have found : (bereft [112]).find "/w" = .ok (⟨["w"], 0⟩, .directory _) :=
    leadsTo_w.find (leadsTo_w.passable (by decide) (by decide)) rfl (fits_directory _ _)
  have route : Scan.IsRoute ({} : Scan.Options).skipped ["a.go"] :=
    ⟨by decide, "a.go", rfl, by decide⟩
  have reads : ∀ data, (bereft data).read "/w/a.go" = .ok data := fun data =>
    leadsTo_file.read passable_file rfl (by decide)
  have none_due : (serving (bereft [120])).rebuildDue "../a.go" = .ok none :=
    rebuildDue_adrift rfl (sound_bereft _) rfl (by decide)
      (not_or.mpr ⟨by decide, Nat.one_ne_zero⟩) (by decide)
  exact {
    active := rfl
    opens := isDirectory_of_find found
    written := write_bereft
    yields := Scan.yields_of_route (sound_bereft _).proper rfl rfl found route nofun rfl (by decide)
    changed := Scan.changed_of_reads (reads [112]) (reads [120]) (by decide)
    unnoted := noteWritten_of_none none_due }

/-! A link on the path is met on a path that is too long to look at it. -/

/-- `overlooked` with a source where the second link leads. -/
def overlookedSource (data : List UInt8) : FileSystem :=
  overlooked [("x.go", .file data false)]

theorem orderly_overlookedSource (data : List UInt8) : (overlookedSource data).Orderly := by
  refine orderly_overlooked ?_ (by simp [linkRoutes])
  simp only [Proper]
  decide

theorem write_overlooked :
    (overlookedSource [112]).write "/l/k/x.go" [120] = .ok (overlookedSource [120]) := by
  have naming : Naming "x.go" := ⟨by decide, by decide, by decide⟩
  exact write_of_walk (by decide) (by decide) (by decide) rfl rfl rfl
    (arrives_out.walk_file naming rfl .create) rfl

theorem isWithin_overlooked (data : List UInt8) :
    (overlookedSource data).isWithin "/l/k/x.go" "/out" = .ok false := by
  have leads : LeadsTo "/out" ["out"] := ⟨rfl, rfl, by decide⟩
  have there : Entry.at? ["out"] (overlookedSource data).entries =
      some (.directory [("x.go", .file data false)]) := rfl
  have found := leads.find (leads.passable (by decide) (by decide)) there (fits_directory _ _)
  unfold FileSystem.isWithin
  rw [canonicalNames_anchored (orderly_overlookedSource data) (Or.inl rfl)
      (leads.sighted there nofun) found,
    show Path.plain "/l/k/x.go" = "/l/k/x.go" from rfl,
    show (overlookedSource data).canonicalNames "/l/k/x.go" = .ok (deepest ++ ["k", "x.go"]) from
      canonicalNames_overlooked (by decide) rfl rfl (by decide)]
  rfl

theorem unnoted_overlooked :
    Unnoted { serving (overlookedSource [112]) with workspace := some "/out" } "/out" "/l/k/x.go"
      "/out/x.go" [120] (overlookedSource [120]) := by
  have leads : LeadsTo "/out" ["out"] := ⟨rfl, rfl, by decide⟩
  have leads_file : LeadsTo "/out/x.go" ["out", "x.go"] := ⟨rfl, rfl, by decide⟩
  have found : (overlookedSource [112]).find "/out" = .ok (⟨["out"], 0⟩, .directory _) :=
    leads.find (leads.passable (by decide) (by decide)) rfl (fits_directory _ _)
  have route : Scan.IsRoute ({} : Scan.Options).skipped ["x.go"] :=
    ⟨by decide, "x.go", rfl, by decide⟩
  have reads : ∀ data, (overlookedSource data).read "/out/x.go" = .ok data := fun data =>
    leads_file.read (leads_file.passable (by decide) (by decide)) rfl (by decide)
  have none_due : ({ serving (overlookedSource [120]) with workspace := some "/out" } :
      Service).rebuildDue "/l/k/x.go" = .ok none := by
    unfold rebuildDue Host.isWithin
    dsimp only [serving]
    rw [isWithin_overlooked]
    rfl
  exact {
    active := rfl
    opens := isDirectory_of_find found
    written := write_overlooked
    yields := Scan.yields_of_route (orderly_overlookedSource _).proper rfl rfl found route nofun rfl
      (by decide)
    changed := Scan.changed_of_reads (reads [112]) (reads [120]) (by decide)
    unnoted := noteWritten_of_none none_due }

/-- **Unnoted writes**: no rebuild is scheduled for a source that is changed through a link with a
    name that is not that of a source, by a path from a working directory that has been removed,
    where the scan looks while the path of the workspace leads elsewhere, or by a path with a link
    that cannot be looked at. -/
theorem change_unnoted :
    Unnoted (serving (aliased [112])) "/w" "/w/notes.txt" "/w/a.go" [120] (aliased [120]) ∧
      Unnoted (serving (bereft [112])) "/w" "../a.go" "/w/a.go" [120] (bereft [120]) ∧
      Unnoted servingUp "/w/link/.." "/w/x.go" "/w/x.go" [120] linkedWritten ∧
      Unnoted { serving (overlookedSource [112]) with workspace := some "/out" } "/out" "/l/k/x.go"
        "/out/x.go" [120] (overlookedSource [120]) :=
  ⟨unnoted_alias, unnoted_bereft, unnoted_up, unnoted_overlooked⟩

end Service
end GoWorkbench
