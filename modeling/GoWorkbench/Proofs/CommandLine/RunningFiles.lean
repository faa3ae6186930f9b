/-
  Running a file from the command line.

  The code is read from the file, or from another one, and before it is run it is written to the
  file.  In between it is a text with line ends of one kind, so returns do not come back.

  1. **Reading** — the code is what the file says, with line ends of one kind (`codeFrom_ok`).
  2. **Writing** — the run has written that to a file before its child is launched
     (`start_stores`), and after the launch it changes no file (`finish_files`).
  3. **The source** — so a file of bytes without returns is left as it was, and a file with a return
     is not (`run_keeps_source`).
-/
import GoWorkbench.Proofs.CommandLine.Starting
import GoWorkbench.Proofs.FileSystem.Reading
import GoWorkbench.Proofs.Service.Targets
import GoWorkbench.Proofs.Text.LineEnds

namespace GoWorkbench.CommandLine

open FileSystem GoWorkbench.Text

variable {arguments settings : List String} {input directory file source : String}
  {codeFile root : Option String} {h : Host} {launch : Launch} {s : Service} {data : List UInt8}
  {ending : Ending}

/-! ## Reading -/

/-- The file that the code of a run is read from. -/
def sourceOf (file : String) (codeFile : Option String) : String :=
  (codeFile.filter fun f => !f.isEmpty).getD file

/-- **Reading**: the code is what the file says, with line ends of one kind. -/
theorem codeFrom_ok {code : CodePoints}
    (is : codeFrom h (some file) codeFile input = .ok code)
    (reads : h.files.read (sourceOf file codeFile) = .ok data) :
    ∃ text, Utf8.decode data = .ok text ∧
      code.encode = .ok (Utf8.encode (unifyLineEnds text)) := by
  have named : ((codeFile.filter fun f => !f.isEmpty).or (some file)) =
      some (sourceOf file codeFile) := by
    unfold sourceOf
    cases codeFile.filter fun f => !f.isEmpty <;> rfl
  unfold codeFrom at is
  rw [named] at is
  dsimp only at is
  unfold Host.read at is
  rcases found : h.files.read (Path.plain (sourceOf file codeFile)) with t | bytes
  · rw [found] at is
    cases is
  · rw [found] at is
    obtain rfl := read_plain reads found
    dsimp only at is
    split at is
    · rename_i text decodes
      cases is
      exact ⟨text, decodes, encode_ofString _⟩
    · cases is

/-! ## Writing -/

/-- An end tells of the host that it has come to. -/
theorem host_fail (host : Host) (f : Failure) : (fail host f).host = host := by
  unfold fail
  split <;> rfl

theorem host_endRun (host : Host) (r : RunResult) : (endRun host r).host = host := by
  unfold endRun
  split <;> rfl

theorem host_endWith {α : Type} {finish : Host → α → Ended}
    (keeps : ∀ host a, (finish host a).host = host) (answer : Answer α) :
    (endWith finish answer).host = answer.2.host := by
  unfold endWith
  split
  · exact keeps _ _
  · exact host_fail _ _

/-- After the launch of a file no file is changed. -/
theorem finish_files {run : Service.PendingRun} (plain : run.isScratch = false) (ending : Ending) :
    ((Progress.running run s).finish ending).host.files = s.host.files := by
  show (endWith endRun (s.finishRun run ending)).host.files = _
  rw [host_endWith host_endRun, Service.finishRun_files plain ending none]

/-- **Writing**: before a child is launched for a file, the text of the source has been written to
    the path from the root that the file has.  But for the file of the reports, that is all that
    happens to files. -/
theorem start_stores
    (parsed : Invocation.parse arguments = .ok ⟨directory, .run (some file) codeFile settings root⟩)
    (orderly : h.files.Orderly) (named : file ≠ "") (reads : h.files.read (sourceOf file codeFile) = .ok data)
    (launches : (start arguments input h).2.launch? = some (launch, s)) (ending : Ending) :
    ∃ text target before, Touched h.files before ∧ Utf8.decode data = .ok text ∧
      before.absolute file = .ok target ∧
      before.write target (Utf8.encode (unifyLineEnds text)) =
        .ok ((start arguments input h).2.finish ending).host.files := by
  obtain ⟨active, job, run, touched, read, path, prepared, is⟩ :=
    start_runs orderly parsed launches
  obtain ⟨-, toolchain, source, stored, -, stores, launched⟩ :=
    Service.prepareRun_waiting_iff.mp prepared
  obtain ⟨announced, -, -, -, scratch, -⟩ := Service.launchSource_ok launched
  have given := Service.path_kept path named
  have storing := Service.store_stores active job none
  rw [stores] at storing
  cases storing with
  | scratch needed => exact nomatch given.symm.trans needed
  | file given' encodes absolute written =>
    obtain rfl := Option.some.inj (given.symm.trans given')
    obtain ⟨text, decodes, encodes'⟩ := codeFrom_ok read (touched.read orderly reads)
    obtain rfl := Except.ok.inj (encodes.symm.trans encodes')
    refine ⟨text, _, _, touched, decodes, absolute, ?_⟩
    rw [is, finish_files scratch, announced]
    exact written

/-! ## The source -/

/-- What a run leaves in its file, where the code has been read from a file with these bytes. -/
structure Leaves (file source : String) (data : List UInt8) (before after : FileSystem) : Prop where
  /-- The file has the code, with line ends of one kind, if its path is straight. -/
  code : before.Straight file → ∃ text, Utf8.decode data = .ok text ∧
    after.read file = .ok (Utf8.encode (unifyLineEnds text))
  /-- So these are the same bytes, just if there is no return among them. -/
  same : before.Straight file → (after.read file = .ok data ↔ 13 ∉ data)
  /-- A source without returns is left as it was, however it is named. -/
  untouched : source = file → 13 ∉ data → after.read file = .ok data

/-- What is in the file after its code has been written to it. -/
theorem leaves_of_write {fs fs' : FileSystem} {target : String} {text : List Char}
    (orderly : fs.Orderly) (reads : fs.read source = .ok data)
    (decodes : Utf8.decode data = .ok text) (absolute : fs.absolute file = .ok target)
    (written : fs.write target (Utf8.encode (unifyLineEnds text)) = .ok fs') :
    Leaves file source data fs fs' := by
  obtain rfl := Utf8.encode_of_decode decodes
  refine ⟨fun straight => ⟨text, decodes, (straight.stored orderly absolute written).read⟩,
    fun straight => ?_, fun is no_return => ?_⟩
  · rw [(straight.stored orderly absolute written).read, ← encode_unify_eq_iff text]
    exact ⟨Except.ok.inj, congrArg Except.ok⟩
  · subst is
    rcases read_stored (stored_of_write orderly written) reads with reads | reads
    · exact reads
    · rw [reads, (encode_unify_eq_iff text).mpr no_return]

/-- What holds of the files before the reports got their file holds of those without it. -/
theorem Leaves.of_touched {fs fs' fs'' : FileSystem} (touched : Touched fs fs')
    (leaves : Leaves file source data fs' fs'') : Leaves file source data fs fs'' where
  code := fun straight => leaves.code (touched.straight straight)
  same := fun straight => leaves.same (touched.straight straight)
  untouched := leaves.untouched

/-- **The source**: however the child ends, if it changes no file, the file that has been run has
    the bytes of its source, but for the returns among them. -/
theorem run_keeps_source
    (parsed : Invocation.parse arguments = .ok ⟨directory, .run (some file) codeFile settings root⟩)
    (orderly : h.files.Orderly) (reads : h.files.read (sourceOf file codeFile) = .ok data)
    (launches : (start arguments input h).2.launch? = some (launch, s)) (ending : Ending) :
    Leaves file (sourceOf file codeFile) data h.files
      ((start arguments input h).2.finish ending).host.files := by
  by_cases named : file = ""
  · -- nothing can be read from such a path, nor is it straight
    subst named
    refine ⟨fun straight => absurd rfl straight.nonempty,
      fun straight => absurd rfl straight.nonempty, fun is => ?_⟩
    rw [is] at reads
    cases reads
  · obtain ⟨text, target, before, touched, decodes, absolute, written⟩ :=
      start_stores parsed orderly named reads launches ending
    exact (leaves_of_write (touched.orderly orderly) (touched.read orderly reads) decodes absolute
      written).of_touched touched

/-- The file of a workspace is run with a toolchain of its own. -/
def running : List String :=
  ["--config-dir", "/w", "run", "/w/a.go", "--env", "GOROOT=/go", "--root", "/w"]

theorem running_parses : Invocation.parse running =
    .ok ⟨"/w", .run (some "/w/a.go") none ["GOROOT=/go"] (some "/w")⟩ := rfl

/-- A workspace with one file of these bytes. -/
def holding (data : List UInt8) : FileSystem :=
  ⟨[("w", .directory [("a.go", .file data false)])], .root⟩

theorem orderly_holding (data : List UInt8) : (holding data).Orderly := by
  refine Sound.orderly ⟨?_, linkFree_of_countLinks (by simp [holding, countLinks]),
    stands_root _, nofun⟩
  simp only [holding, Entry.Proper]
  decide

theorem read_holding (data : List UInt8) : (holding data).read "/w/a.go" = .ok data :=
  Service.leadsTo_file.read Service.passable_file (Entry.fileAt_eq_some.mpr ⟨false, rfl⟩)
    (by decide)

theorem straight_holding (data : List UInt8) : (holding data).Straight "/w/a.go" where
  nonempty := by decide
  no_nul := by decide
  short := by decide
  no_slash := by decide
  no_dot := by decide
  retraces := .onward ⟨by decide, by decide, by decide⟩
    (.onward ⟨by decide, by decide, by decide⟩ .done)
  working := nofun

theorem placeable_holding (data : List UInt8) : (opened (holding data)).Placeable "/w/a.go" := by
  rintro root ⟨⟩
  have leads : LeadsTo "/w" ["w"] := ⟨rfl, rfl, by decide⟩
  exact ⟨leads.resolvable (orderly_holding data)
      (rfl : Entry.at? ["w"] (holding data).entries = some (.directory _)) nofun,
    Service.leadsTo_file.resolvable (orderly_holding data)
      (rfl : Entry.at? ["w", "a.go"] (holding data).entries = some (.file data false)) nofun⟩

/-- Such a service launches code with the path of the file. -/
theorem opened_launches {code : CodePoints} {bytes : List UInt8} (data : List UInt8)
    (encodes : code.encode = .ok bytes) : ∃ run s, (opened (holding data)).prepareRun
      ⟨code, some "/w/a.go", [("GOROOT", "/go")]⟩ none = (.ok (.waiting run), s) := by
  have located : (opened (holding data)).locate [("GOROOT", "/go")] = .ok "/go/bin/go" := rfl
  have absolute : (opened (holding data)).host.absolute "/w/a.go" = .ok "/w/a.go" := rfl
  have written : (opened (holding data)).host.files.write "/w/a.go" bytes = .ok (holding bytes) :=
    Service.leadsTo_file.write Service.passable_file (by decide)
      (rfl : Entry.at? ["w", "a.go"] (holding data).entries = some (.file data false)) bytes
  have stored := stored_of_write (orderly_holding data) written
  obtain ⟨directory, placed⟩ := Service.runDirectory_ok_iff.mpr
    ((placeable_holding data).stored (orderly_holding data) stored).placed
  rw [Service.prepareRun_of_path located encodes rfl (by decide)]
  unfold Service.prepareFile
  rw [absolute]
  dsimp only
  rw [Host.write_of_ok written]
  dsimp only
  rw [placed]
  exact ⟨_, _, rfl⟩

theorem running_launches {text : List Char} (decodes : Utf8.decode data = .ok text) :
    ∃ launch s, (start running "" (Service.serving (holding data)).host).2.launch? =
      some (launch, s) := by
  have configured := configure_serving (orderly_holding data) ⟨_, rfl⟩ rfl
  have activated : activate (started (holding data)) (some "/w") =
      (.ok (), opened (holding data)) := activate_started rfl
  have read : codeFrom (opened (holding data)).host (some "/w/a.go") none "" =
      .ok (.ofString (String.ofList (unifyLineEnds text))) := by
    unfold codeFrom Host.read
    dsimp only [Option.filter, Option.or]
    rw [show (opened (holding data)).host.files.read (Path.plain "/w/a.go") = .ok data from
      read_holding data]
    dsimp only
    rw [decodes]
  have made : (settingsOf [] ["GOROOT=/go"]).bind
      (RunJob.make (.ofString (String.ofList (unifyLineEnds text))) (some "/w/a.go")) =
        .ok ⟨.ofString (String.ofList (unifyLineEnds text)), some "/w/a.go",
          [("GOROOT", "/go")]⟩ := by
    exact (makes_runJob _ _).ok [("GOROOT", "/go")] (checkSettings_ok (by decide))
  obtain ⟨run, s, launched⟩ := opened_launches data (encode_ofString (unifyLineEnds text))
  refine ⟨run.launch, s, ?_⟩
  rw [start_configured running_parses configured (openLog_none _)]
  unfold carryOut
  dsimp only
  rw [create_serving]
  dsimp only
  rw [startRun_eq, activated]
  dsimp only
  rw [read]
  dsimp only
  rw [made]
  dsimp only
  rw [launched]
  rfl

theorem run_keeps_source_plain :
    Invocation.parse running =
        .ok ⟨"/w", .run (some "/w/a.go") none ["GOROOT=/go"] (some "/w")⟩ ∧
      (holding [112]).Orderly ∧ (holding [112]).read "/w/a.go" = .ok [112] ∧
      ∃ launch s, (start running "" (Service.serving (holding [112])).host).2.launch? =
          some (launch, s) ∧
        ∀ ending, ((start running "" (Service.serving (holding [112])).host).2.finish
          ending).host.files.read "/w/a.go" = .ok [112] := by
  have decodes : Utf8.decode [112] = .ok ['p'] := by decide +kernel
  obtain ⟨launch, s, launches⟩ := running_launches decodes
  refine ⟨running_parses, orderly_holding _, read_holding _, launch, s, launches, fun ending => ?_⟩
  have leaves :=
    run_keeps_source running_parses (orderly_holding _) (read_holding _) launches ending
  exact leaves.untouched rfl (by decide)

/-- A return before a newline has gone after the run, however the child ends. -/
theorem run_loses_return :
    (holding [112, 13, 10]).read "/w/a.go" = .ok [112, 13, 10] ∧
      ∃ launch s, (start running "" (Service.serving (holding [112, 13, 10])).host).2.launch? =
          some (launch, s) ∧
        ∀ ending, ((start running "" (Service.serving (holding [112, 13, 10])).host).2.finish
          ending).host.files.read "/w/a.go" = .ok [112, 10] := by
  have decodes : Utf8.decode [112, 13, 10] = .ok ['p', '\r', '\n'] := by decide +kernel
  have unified : Utf8.encode (unifyLineEnds ['p', '\r', '\n']) = [112, 10] := by decide +kernel
  obtain ⟨launch, s, launches⟩ := running_launches decodes
  refine ⟨read_holding _, launch, s, launches, fun ending => ?_⟩
  obtain ⟨text, target, before, touched, decoded, absolute, written⟩ :=
    start_stores running_parses (orderly_holding _) (by decide) (read_holding _) launches ending
  obtain rfl := Except.ok.inj (decoded.symm.trans decodes)
  rw [unified] at written
  exact ((touched.straight (straight_holding _)).stored (touched.orderly (orderly_holding _))
    absolute written).read

end GoWorkbench.CommandLine
