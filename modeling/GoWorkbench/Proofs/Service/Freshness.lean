/-
  The index is fresh once everything has come to rest.

  1. **Rest** — when nobody owes a rebuild and all rebuilds have ended, the rebuild with the highest
     number has found what is there now (`Debts`), and by `Overlap` the index holds what it has
     found (`fresh_at_rest`).
  2. **Overtaking** — it does so where the rebuild that was called last is the first one done.
  3. **Staleness** — the index need not be fresh if scratch files are made where a scan comes by,
     because nobody notes that they go, nor if a file is saved by a path from a working directory
     that has been removed, because such a path lies in no workspace, nor if a run has its writing
     broken off, because it then ends with nothing noted (`not_fresh_at_rest`).
-/
import GoWorkbench.Proofs.Service.Debts

namespace GoWorkbench

open Entry FileSystem SymbolIndex

namespace Editing

variable {root : String} {usage : Usage} {first : Service} {s : Editing}

/-! ## Rest -/

/-- The thread of the rebuild has come to its end. -/
def Over : Rebuild Scan.Walk → Prop
  | .failed _ _ | .ended _ _ _ _ => True
  | _ => False

/-- **Fresh at rest**: once all calls have returned and all threads have ended, the index holds the
    symbols that a scan of the workspace finds now, in whatever order the steps were taken. -/
theorem fresh_at_rest (activated : Activated root first) (careful : Careful root usage first)
    (run : Run root usage first s) (returned : ∀ c ∈ s.calls, c = .returned)
    (finished : ∀ r ∈ s.rebuilds, Over r) :
    Scan.symbols s.service.host s.service.index.options root = .ok s.service.symbols := by
  have sane := run.sane activated careful
  have ended : ∀ r ∈ s.rebuilds, ∃ n w symbols fresh, r = .ended n w symbols fresh := by
    intro r hr
    cases r with
    | ended n w symbols fresh => exact ⟨n, w, symbols, fresh, rfl⟩
    | failed n w => exact absurd rfl ((sane.scans _ hr).alive n w)
    | called w => exact (finished _ hr).elim
    | scanning n w => exact (finished _ hr).elim
    | scanned n w symbols => exact (finished _ hr).elim
  cases sane.fresh with
  | owed owed =>
    obtain ⟨i, c, hc, owes⟩ := owed
    rw [returned c (List.mem_of_getElem? hc)] at owes
    exact owes.elim
  | waiting i w here => exact (finished _ (List.mem_of_getElem? here)).elim
  | current i r here number promise =>
    obtain ⟨events, reached⟩ := sane.reached
    have quiet : Quiet s.rebuilding := by
      intro q hq
      obtain ⟨n, w, symbols, fresh, rfl⟩ := ended q hq
      rfl
    obtain ⟨j, scan, fresh, hj⟩ :=
      reached.quiet_snapshot quiet (List.ne_nil_of_mem (List.mem_of_getElem? here))
    have number_i : s.rebuilding.numberAt i = some s.service.index.started :=
      (numberAt_of_some here).trans number
    have number_j : s.rebuilding.numberAt j = some s.service.index.started := numberAt_of_some hj
    have hj : s.rebuilds[j]? =
        some (.ended s.service.index.started scan s.service.symbols fresh) := hj
    -- the rebuild with the highest number is the one whose result is held
    have same : i = j := reached.numbered.once i j s.service.index.started number_i number_j
    rw [same, hj] at here
    rw [← Option.some.inj here] at promise
    have off : s.service.index.options.respectIgnore = false := by
      rw [sane.options]; exact activated.off
    rw [Scan.symbols_start off (absolute_plain activated.absolute _) activated.leads sane.sound,
      sane.options]
    exact congrArg Except.ok (Option.some.inj promise).symm

/-! A workspace `/w` where nothing is yet, and a source that declares one function. -/

def sourceOfX : List UInt8 := "func X()".toUTF8.toList

def textOfX : Text.CodePoints := .ofString "func X()"

def symbolOfX (path : String) : Go.Symbol := ⟨"X", .function, path, 1, 6⟩

theorem encode_textOfX : textOfX.encode = .ok sourceOfX := by decide +kernel

/-- There are these entries in `/w`, and nothing else. -/
def tree (inner : List (String × Entry)) (current : Place) : FileSystem :=
  ⟨[("w", .directory inner)], current⟩

/-- There is one file alone, with the source in it. -/
def lone (name : String) (data : List UInt8 := sourceOfX) : List (String × Entry) :=
  [(name, .file data false)]

/-- The service once `/w` has been activated; relative paths start at `current`. -/
def opened (temporary : String) (current : Place) : Service where
  config := {}
  platform := .posix
  statePath := "/editor_config.json"
  workspace := some "/w"
  index := { options := {} }
  host := {
    files := tree [] current
    environment := []
    system := "linux"
    machine := "x86_64"
    temporary }

/-- Saves are noted where they were written, and code may be run without a path. -/
def steadily : Usage := ⟨Steady, True, False⟩

/-- Saves are noted from anywhere, and code has a path. -/
def anywhere : Usage := ⟨fun _ _ _ => True, False, False⟩

/-- Saves are noted where they were written, and code has a path, but may not all be written. -/
def brokenly : Usage := ⟨Steady, False, True⟩

theorem leadsTo_w : LeadsTo "/w" ["w"] := ⟨rfl, rfl, by decide⟩

theorem plain_w : Path.plain "/w" = "/w" := rfl

theorem scanOf_w : scanOf "/w" = .start "/w" := rfl

theorem lead_w : lead .root "/w" = ["w"] := rfl

theorem open_w (skipped : List String) : (scanOf "/w").Open skipped ["w"] := by
  rw [scanOf_w]; exact Scan.open_start skipped leadsTo_w

theorem sound_none {current : Place} (stands : Stands [("w", .directory [])] current)
    (names : ∀ n ∈ current.names, IsName n) : (tree [] current).Sound where
  proper := by simp only [tree, Proper]; decide
  free := linkFree_of_countLinks (by simp [tree, countLinks])
  stands := stands
  names := names

theorem sound_lone {name : String} {data : List UInt8} {current : Place} (isName : IsName name)
    (stands : Stands [("w", .directory (lone name data))] current)
    (names : ∀ n ∈ current.names, IsName n) : (tree (lone name data) current).Sound where
  proper := by simp [tree, lone, Proper, isName]; decide
  free := linkFree_of_countLinks (by simp [tree, lone, countLinks])
  stands := stands
  names := names

theorem activated_w {temporary : String} {current : Place}
    (sound : (tree [] current).Sound) : Activated "/w" (opened temporary current) where
  opens := by
    have found : Entry.at? ["w"] (tree [] current).entries = some (.directory []) := rfl
    have finds := leadsTo_w.find (leadsTo_w.passable (by decide) (by decide)) found
      (fits_directory _ _)
    refine .switched { opened temporary current with workspace := none } false none ?_
    exact Service.setWorkspace_of_find (by decide) (by rw [plain_w]; exact finds)
  absolute := by decide
  fresh := rfl
  off := rfl
  sound := sound

theorem secluded_w (current : Place) : Secluded "/w" (opened "/tmp" current) where
  absolute := (by decide : Path.isAbsolute "/tmp" = true)
  apart := by
    have lead_tmp : lead .root "/tmp" = ["tmp"] := rfl
    intro rest _ h
    rw [show (opened "/tmp" current).host.temporary = "/tmp" from rfl, lead_tmp, lead_w] at h
    exact absurd (List.cons.inj h).1 (by decide)

theorem found_none (skipped : List String) (current : Place) :
    (scanOf "/w").symbols skipped ["w"] (tree [] current) = [] := by
  rw [scanOf_w, Scan.symbols_of_start]
  exact Scan.symbolsBelow_of_empty rfl

theorem found_lone (skipped : List String) (current : Place) {name path : String}
    {data : List UInt8} (isName : IsName name) (go : Path.isGoSource name = true)
    (is : Scan.pathOf "/w" [name] = path) (passable : Passable path) :
    (scanOf "/w").symbols skipped ["w"] (tree (lone name data) current) =
      Go.outline data path := by
  rw [← is] at passable
  rw [scanOf_w, Scan.symbols_of_start, ← is]
  exact Scan.symbolsBelow_of_lone leadsTo_w rfl isName go passable

/-- What a scan of `/w` in one go finds. -/
theorem symbols_w {h : Host} {symbols : List Go.Symbol} (sound : h.files.Sound)
    (found : (scanOf "/w").symbols ({} : Scan.Options).skipped ["w"] h.files = symbols) :
    Scan.symbols h {} "/w" = .ok symbols := by
  have absolute : h.absolute (Path.plain "/w") = .ok "/w" := absolute_plain rfl h
  rw [Scan.symbols_start rfl absolute leadsTo_w sound, ← found, scanOf_w]

/-- Saving the source makes its file. -/
theorem writeText_w {path name : String} {current : Place} {s : Service}
    (files : s.host.files = tree [] current)
    (vacant : (tree [] current).reach .create path = .ok (.vacant ⟨["w"], 0⟩ name)) :
    s.writeText path textOfX = (.ok (), withFiles s (tree (lone name) current)) := by
  have writes : (tree [] current).write path sourceOfX = .ok (tree (lone name) current) := by
    unfold FileSystem.write
    rw [vacant]
    rfl
  unfold Service.writeText
  rw [encode_textOfX]
  dsimp only
  rw [Host.write_of_ok (files ▸ writes)]
  rfl

theorem leadsTo_a : LeadsTo "/w/a.go" (["w"] ++ ["a.go"]) := ⟨rfl, rfl, by decide⟩

theorem passable_a : Passable "/w/a.go" := leadsTo_a.passable (by decide) (by decide)

theorem found_a (skipped : List String) (current : Place) :
    (scanOf "/w").symbols skipped ["w"] (tree (lone "a.go") current) = [symbolOfX "/w/a.go"] := by
  rw [found_lone _ _ (by decide) (by decide) (by rfl) passable_a]
  decide +kernel

/-! The rebuild that a save schedules is done before the one that was scheduled first. -/

def overtaken : Editing :=
  ⟨{ withFiles (opened "/tmp" .root) (tree (lone "a.go") .root) with
      index := { options := {}, started := 2, published := 2, snapshot := [symbolOfX "/w/a.go"] } },
    [.ended 2 ⟨"/w", [], [symbolOfX "/w/a.go"]⟩ [symbolOfX "/w/a.go"] true,
      .ended 1 ⟨"/w", [], [symbolOfX "/w/a.go"]⟩ [symbolOfX "/w/a.go"] true],
    [.returned]⟩

theorem sound_empty : (tree [] .root).Sound :=
  sound_none (stands_root _) fun _ h => absurd h List.not_mem_nil

theorem run_overtaken (usage : Usage) (notes : usage.notes "/w/a.go" .root .root) :
    Run "/w" usage (opened "/tmp" .root) overtaken := by
  have vacant : (tree [] .root).reach .create "/w/a.go" = .ok (.vacant ⟨["w"], 0⟩ "a.go") :=
    leadsTo_a.reach_vacant passable_a (by decide) ⟨[], rfl⟩ rfl
  have writes := writeText_w (s := opened "/tmp" .root) rfl vacant
  have sound : (tree (lone "a.go") .root).Sound :=
    (Service.writeText_ok sound_empty writes).2.changed.sound
  have due : (withFiles (opened "/tmp" .root) (tree (lone "a.go") .root)).rebuildDue "/w/a.go" =
      .ok (some "/w") := by
    rw [Service.rebuildDue_eq rfl sound (by decide) (by decide) (Or.inl (by decide)) (by decide),
      leadsTo_w.spot, leadsTo_a.spot]
    rfl
  have called : Run "/w" usage (opened "/tmp" .root) _ :=
    Run.start.step (.call _ (.saving "/w/a.go" textOfX) trivial)
  have wrote := called.step (.write _ 0 "/w/a.go" textOfX _ rfl writes)
  have noted := wrote.step (.noteSaved _ 0 "/w/a.go" .root (some "/w") rfl notes due)
  have second := noted.undisturbed (i := 1) rfl (open_w _) sound (Nat.zero_le _) (found_a _ _)
  have both := second.undisturbed (i := 0) rfl (open_w _) sound (Nat.le_succ _) (found_a _ _)
  rw [scanOf_w] at both
  exact both

theorem fresh_at_rest_overtaken : Activated "/w" (opened "/tmp" .root) ∧
    Careful "/w" steadily (opened "/tmp" .root) ∧
    Run "/w" steadily (opened "/tmp" .root) overtaken ∧
    Scan.symbols overtaken.service.host {} "/w" = .ok [symbolOfX "/w/a.go"] := by
  have finished : ∀ r ∈ overtaken.rebuilds, Over r := by
    intro r hr
    rcases List.mem_cons.mp hr with rfl | hr
    · trivial
    · rw [List.mem_singleton.mp hr]; trivial
  have activated : Activated "/w" (opened "/tmp" .root) := activated_w sound_empty
  have careful : Careful "/w" steadily (opened "/tmp" .root) :=
    ⟨fun _ => secluded_w .root, fun _ _ _ steady => steady, id⟩
  have run : Run "/w" steadily (opened "/tmp" .root) overtaken :=
    run_overtaken steadily (Or.inl (by decide))
  exact ⟨activated, careful, run, fresh_at_rest activated careful run
    (fun c hc => List.mem_singleton.mp hc) finished⟩

/-! Scratch files are made in the root itself, and one is there when a scan comes by. -/

def jobOfX : RunJob := { code := textOfX, settings := [("GOROOT", "/go")] }

theorem leadsTo_scratch : LeadsTo "/w/main_s1.go" (["w"] ++ ["main_s1.go"]) :=
  ⟨rfl, rfl, by decide⟩

theorem passable_scratch : Passable "/w/main_s1.go" :=
  leadsTo_scratch.passable (by decide) (by decide)

theorem found_scratch (skipped : List String) (current : Place) :
    (scanOf "/w").symbols skipped ["w"] (tree (lone "main_s1.go") current) =
      [symbolOfX "/w/main_s1.go"] := by
  rw [found_lone _ _ (by decide) (by decide) (by rfl) passable_scratch]
  decide +kernel

/-- Code without a path goes to a scratch file. -/
theorem prepareRun_w : ∃ run after, (opened "/w" .root).prepareRun jobOfX none =
      (.ok (.waiting run), after) ∧ run.isScratch = true ∧ run.file = "/w/main_s1.go" ∧
      after.index = { options := {} } ∧ after.host.files = tree (lone "main_s1.go") .root := by
  have vacant : (tree [] .root).reach .lookAtLink "/w/main_s1.go" =
      .ok (.vacant ⟨["w"], 0⟩ "main_s1.go") :=
    leadsTo_scratch.reach_vacant passable_scratch (by decide) ⟨[], rfl⟩ rfl
  have creates : (tree [] .root).createNew "/w/main_s1.go" sourceOfX =
      .ok (tree (lone "main_s1.go") .root) := by
    unfold createNew
    rw [vacant]
    rfl
  have path : Service.scratchPath "/w" 1 = "/w/main_s1.go" := by
    unfold Service.scratchPath; rfl
  have normal : Path.normalize "/w/main_s1.go" = "/w/main_s1.go" := rfl
  have makes : Service.makeScratch (opened "/w" .root).host sourceOfX Service.maxScratchNames =
      (.ok "/w/main_s1.go", { (opened "/w" .root).host with
        scratchNames := 1, files := tree (lone "main_s1.go") .root }) := by
    unfold Service.maxScratchNames opened
    rw [Service.makeScratch]
    dsimp only
    rw [path, creates, normal]
  have located : (opened "/w" .root).locate jobOfX.settings = .ok (Toolchain.ofRoot "/go") := rfl
  have encodes : jobOfX.code.encode = .ok sourceOfX := encode_textOfX
  have prepares : (opened "/w" .root).prepareRun jobOfX none =
      (opened "/w" .root).prepareScratch (Toolchain.ofRoot "/go")
        ((opened "/w" .root).withRoot jobOfX.settings) sourceOfX none := by
    unfold Service.prepareRun
    dsimp only
    rw [located]
    dsimp only
    rw [encodes]
    rfl
  unfold Service.prepareScratch at prepares
  rw [show Breach.kept none sourceOfX = sourceOfX from rfl, makes] at prepares
  exact ⟨_, _, prepares, rfl, rfl, rfl, rfl⟩

/-- After the run the scratch file is gone. -/
theorem settleRun_w {s : Service} {run : Service.PendingRun} (scratch : run.isScratch = true)
    (file : run.file = "/w/main_s1.go") (files : s.host.files = tree (lone "main_s1.go") .root)
    (ending : Ending) :
    (s.settleRun run ending).index = s.index ∧
      (s.settleRun run ending).host.files = tree [] .root := by
  have found : Entry.at? (["w"] ++ ["main_s1.go"]) (tree (lone "main_s1.go") .root).entries =
      some (.file sourceOfX false) := rfl
  have reached : (tree (lone "main_s1.go") .root).reach .lookAtLink "/w/main_s1.go" = _ :=
    leadsTo_scratch.reach (by decide) passable_scratch found (fits_file _ _)
  have removes : (tree (lone "main_s1.go") .root).remove "/w/main_s1.go" =
      .ok (tree [] .root) := by
    unfold remove
    rw [reached]
    rfl
  obtain ⟨keeps, same⟩ := Service.reportEnding_files s run.launch.program ending
  unfold Service.settleRun Service.removeScratch
  dsimp only
  rw [if_pos scratch, file, same, files, removes]
  exact ⟨keeps.index, rfl⟩

theorem run_scratch : ∃ s, Run "/w" steadily (opened "/w" .root) s ∧
    (∀ c ∈ s.calls, c = .returned) ∧ (∀ r ∈ s.rebuilds, Over r) ∧
    s.service.host.files = tree [] .root ∧ s.service.index.options = {} ∧
    s.service.symbols = [symbolOfX "/w/main_s1.go"] := by
  obtain ⟨run, after, launches, scratch, file, index, files⟩ := prepareRun_w
  have sound : after.host.files.Sound := by
    rw [files]
    exact sound_lone (by decide) (stands_root _) fun _ h => absurd h List.not_mem_nil
  have found : (scanOf "/w").symbols after.index.options.skipped ["w"] after.host.files =
      [symbolOfX "/w/main_s1.go"] := by
    rw [files]; exact found_scratch _ _
  have called : Run "/w" steadily (opened "/w" .root) _ :=
    Run.start.step (.call _ (.starting jobOfX none) ⟨fun _ => trivial, fun _ h => absurd rfl h⟩)
  have prepared := called.step (.prepare _ 0 jobOfX none none run after rfl launches)
  have rebuilt := prepared.undisturbed (i := 0) rfl (open_w _) sound
    (by rw [index]; decide) found
  let scanned : Service := { after with index := { after.index with
    started := after.index.started + 1, published := after.index.started + 1,
    snapshot := [symbolOfX "/w/main_s1.go"] } }
  have rebuilt : Run "/w" steadily (opened "/w" .root) ⟨scanned, _, [.running run]⟩ := rebuilt
  have settled := rebuilt.step (.settle _ 0 run (.exited 0 []) none _ rfl rfl)
  obtain ⟨same, gone⟩ := settleRun_w (s := scanned) scratch file files (.exited 0 [])
  rw [scratch] at settled
  refine ⟨_, settled, fun c hc => List.mem_singleton.mp hc, fun r hr => ?_, gone, ?_, ?_⟩
  · rw [List.mem_singleton.mp hr]; trivial
  · show (scanned.settleRun run (.exited 0 [])).index.options = {}
    rw [same]
    exact congrArg SymbolIndex.options index
  · show (scanned.settleRun run (.exited 0 [])).index.snapshot = _
    rw [same]

/-! Relative paths start in a directory that has been removed. -/

def removed : Place := ⟨["d"], 1⟩

theorem stands_removed (entries : List (String × Entry)) : Stands entries removed :=
  ⟨Nat.le_refl 1, dirAt_nil⟩

theorem names_removed : ∀ n ∈ removed.names, IsName n := by decide

def adrift : Editing :=
  ⟨{ withFiles (opened "/tmp" removed) (tree (lone "a.go") removed) with
      index := { options := {}, started := 1, published := 1 } },
    [.ended 1 ⟨"/w", [], []⟩ [] true], [.returned]⟩

theorem run_adrift : Run "/w" anywhere (opened "/tmp" removed) adrift := by
  have sound_before := sound_none (stands_removed _) names_removed
  have sound : (tree (lone "a.go") removed).Sound :=
    sound_lone (by decide) (stands_removed _) names_removed
  -- the parent of a directory that is gone is where it was
  have vacant : (tree [] removed).reach .create "../w/a.go" = .ok (.vacant ⟨["w"], 0⟩ "a.go") := by
    have components : components "../w/a.go" = ".." :: (["w"] ++ ["a.go"]) := rfl
    have walks : (tree [] removed).walk .create false maxLinks ⟨[], 0⟩ (["w"] ++ ["a.go"]) =
        .ok (.vacant ⟨[] ++ ["w"], 0⟩ "a.go") :=
      walk_vacant ⟨[], rfl⟩ leadsTo_a.valid (by decide) rfl
    rw [reach_of_passable (by decide) (by decide) (by decide), if_neg (by decide), components,
      walk, if_neg (by decide), if_pos rfl]
    exact walks
  have due : ∀ index, Service.rebuildDue
      { withFiles (opened "/tmp" removed) (tree (lone "a.go") removed) with index }
      "../w/a.go" = .ok none := fun index =>
    Service.rebuildDue_adrift rfl sound (by decide) (by decide)
      (not_or.mpr ⟨by decide, Nat.one_ne_zero⟩) (by decide)
  have rebuilt : Run "/w" anywhere (opened "/tmp" removed) _ :=
    Run.start.undisturbed (i := 0) rfl (open_w _) sound_before (Nat.zero_le _) (found_none _ _)
  have called := rebuilt.step (.call _ (.saving "../w/a.go" textOfX) trivial)
  have wrote := called.step (.write _ 0 "../w/a.go" textOfX _ rfl (writeText_w rfl vacant))
  have noted := wrote.step (.noteSaved _ 0 "../w/a.go" removed none rfl trivial (due _))
  rw [scanOf_w] at noted
  exact noted

/-! The disk is full when a source that is there is run. -/

def jobAtA : RunJob := { code := textOfX, path := some "/w/a.go", settings := [("GOROOT", "/go")] }

/-- The file has been opened, and so emptied, and the run returns at once. -/
theorem prepareRun_full {index : SymbolIndex} : ∃ result after,
    Service.prepareRun { withFiles (opened "/tmp" .root) (tree (lone "a.go") .root) with index }
        jobAtA (some .full) = (.ok (.answered result), after) ∧
      after.index = index ∧ after.host.files = tree (lone "a.go" []) .root := by
  have writes : (tree (lone "a.go") .root).write "/w/a.go" [] =
      .ok (tree (lone "a.go" []) .root) :=
    leadsTo_a.write passable_a (by decide)
      (rfl : Entry.at? (["w"] ++ ["a.go"]) (tree (lone "a.go") .root).entries =
        some (.file sourceOfX false)) []
  have located : ({ withFiles (opened "/tmp" .root) (tree (lone "a.go") .root) with index } :
    Service).locate jobAtA.settings = .ok (Toolchain.ofRoot "/go") := rfl
  rw [Service.prepareRun_of_path located encode_textOfX rfl (by decide)]
  unfold Service.prepareFile Host.write
  rw [show Host.absolute _ "/w/a.go" = .ok "/w/a.go" from rfl,
    show Breach.kept (some .full) sourceOfX = [] from rfl]
  dsimp only [withFiles]
  rw [writes]
  exact ⟨_, _, rfl, rfl, rfl⟩

theorem run_full : ∃ s, Run "/w" brokenly (opened "/tmp" .root) s ∧
    (∀ c ∈ s.calls, c = .returned) ∧ (∀ r ∈ s.rebuilds, Over r) ∧
    s.service.host.files = tree (lone "a.go" []) .root ∧ s.service.index.options = {} ∧
    s.service.symbols = [symbolOfX "/w/a.go"] := by
  have called := (run_overtaken brokenly (Or.inl (by decide))).step
    (.call _ (.starting jobAtA (some .full)) ⟨nofun, fun _ _ => trivial⟩)
  obtain ⟨result, after, answers, index, files⟩ := prepareRun_full
  have answered := called.step (.answer _ 1 jobAtA (some .full) none result after rfl answers)
  refine ⟨_, answered, ?_, ?_, files, ?_, ?_⟩
  · rintro c hc
    rcases List.mem_cons.mp hc with rfl | hc
    · rfl
    · exact List.mem_singleton.mp hc
  · intro r hr
    rcases List.mem_cons.mp hr with rfl | hr
    · trivial
    · rw [List.mem_singleton.mp hr]; trivial
  · exact congrArg SymbolIndex.options index
  · exact congrArg SymbolIndex.snapshot index

/-- **Freshness needs all three**: the index stays stale if scratch files are made where a scan comes
    by, or if a save is noted from a working directory that has been removed, or if the writing of
    code that is run is broken off. -/
theorem not_fresh_at_rest :
    (¬ ∀ (root : String) (usage : Usage) (first : Service) (s : Editing), Activated root first →
      (∀ path place now, usage.notes path place now → Steady path place now) → ¬ usage.broken →
      Run root usage first s → (∀ c ∈ s.calls, c = .returned) → (∀ r ∈ s.rebuilds, Over r) →
      Scan.symbols s.service.host s.service.index.options root = .ok s.service.symbols) ∧
    (¬ ∀ (root : String) (usage : Usage) (first : Service) (s : Editing), Activated root first →
      (usage.scratch → Secluded root first) → ¬ usage.broken →
      Run root usage first s → (∀ c ∈ s.calls, c = .returned) → (∀ r ∈ s.rebuilds, Over r) →
      Scan.symbols s.service.host s.service.index.options root = .ok s.service.symbols) ∧
    (¬ ∀ (root : String) (usage : Usage) (first : Service) (s : Editing), Activated root first →
      (usage.scratch → Secluded root first) →
      (∀ path place now, usage.notes path place now → Steady path place now) →
      Run root usage first s → (∀ c ∈ s.calls, c = .returned) → (∀ r ∈ s.rebuilds, Over r) →
      Scan.symbols s.service.host s.service.index.options root = .ok s.service.symbols) := by
  refine ⟨fun always => ?_, fun always => ?_, fun always => ?_⟩
  · obtain ⟨s, run, returned, finished, files, options, symbols⟩ := run_scratch
    have stale := always "/w" steadily (opened "/w" .root) s (activated_w sound_empty)
      (fun _ _ _ steady => steady) id run returned finished
    have fresh : Scan.symbols s.service.host {} "/w" = .ok [] :=
      symbols_w (by rw [files]; exact sound_empty) (by rw [files]; exact found_none _ _)
    rw [options, fresh, symbols] at stale
    exact List.cons_ne_nil _ _ (Except.ok.inj stale).symm
  · have sound_before := sound_none (stands_removed _) names_removed
    have sound : (tree (lone "a.go") removed).Sound :=
      sound_lone (by decide) (stands_removed _) names_removed
    have stale := always "/w" anywhere (opened "/tmp" removed) adrift
      (activated_w sound_before) False.elim id run_adrift (fun c hc => List.mem_singleton.mp hc)
      fun r hr => by rw [List.mem_singleton.mp hr]; trivial
    have fresh : Scan.symbols adrift.service.host {} "/w" = .ok [symbolOfX "/w/a.go"] :=
      symbols_w sound (found_a _ _)
    exact List.cons_ne_nil _ _ (Except.ok.inj (fresh.symm.trans stale))
  · obtain ⟨s, run, returned, finished, files, options, symbols⟩ := run_full
    have stale := always "/w" brokenly (opened "/tmp" .root) s (activated_w sound_empty)
      False.elim (fun _ _ _ steady => steady) run returned finished
    have sound : (tree (lone "a.go" []) .root).Sound :=
      sound_lone (by decide) (stands_root _) fun _ h => absurd h List.not_mem_nil
    have found : (scanOf "/w").symbols ({} : Scan.Options).skipped ["w"]
        (tree (lone "a.go" []) .root) = [] := by
      rw [found_lone _ _ (by decide) (by decide) (by rfl) passable_a]
      decide +kernel
    have fresh : Scan.symbols s.service.host {} "/w" = .ok [] :=
      symbols_w (by rw [files]; exact sound) (by rw [files]; exact found)
    rw [options, fresh, symbols] at stale
    exact List.cons_ne_nil _ _ (Except.ok.inj stale).symm

end Editing
end GoWorkbench
