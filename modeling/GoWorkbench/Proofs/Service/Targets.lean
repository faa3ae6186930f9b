/-
  The file that a run writes.

  A run writes its code to a path that has been said from the root, and leaves alone what else there
  is.  That is the file that was asked for, if the path is straight.

  1. **Finishing** — noting and reporting change no file, so what the child has left is left
     (`finishRun_files`).
  2. **Preparing** — a run that has a path saves its code, or says that it could not
     (`prepareRun_stores`).
  3. **Targets** — after a run with a straight path the bytes of the code are at the path, and no
     other file has changed (`run_writes_target`).  If the writing is broken off, a beginning of them
     is.
-/
import GoWorkbench.Proofs.Service.Answers

namespace GoWorkbench

open Entry FileSystem

namespace Service

variable {s after : Service} {job : RunJob} {fault : Option Breach} {refusal : Option Trouble}
  {path : String} {child : Launch → Service → Ending × Service}

/-! ## Finishing -/

/-- After a run of a file with a path, the files are those that the child has left. -/
theorem finishRun_files {run : PendingRun} (plain : run.isScratch = false) (ending : Ending)
    (refusal : Option Trouble) :
    (s.finishRun run ending refusal).2.host.files = s.host.files := by
  have same := settleRun_files (s := s) plain ending refusal
  unfold finishRun
  dsimp only
  generalize s.settleRun run ending refusal = settled at same ⊢
  split
  · exact same
  · have noted := noteWritten_files settled run.file
    rw [plain, if_neg Bool.false_ne_true]
    generalize settled.noteWritten run.file = note at noted ⊢
    obtain ⟨noted', after⟩ := note
    split <;> exact noted.trans same

/-! ## Preparing -/

/-- The answer says that the code could not be saved. -/
def SaveFailure (result : RunResult) : Prop :=
  ∃ why : String, result.error = some s!"Failed to save file before running: {why}"

/-- Nothing can be written to the path: the code cannot be encoded, or the system refuses it. -/
def Refused (fs : FileSystem) (path : String) (job : RunJob) : Prop :=
  ∀ data file, job.code.encode = .ok data → fs.absolute path = .ok file →
    ∃ t, fs.write file data = .error t

/-- The first phase of a run saves the code, or says that it could not. -/
inductive Saves (path : String) (job : RunJob) (fs fs' : FileSystem) :
    Option Breach → Phase RunResult PendingRun → Prop
  | failed {fault : Option Breach} {result : RunResult} (failure : SaveFailure result)
      (refused : Refused fs path job) (same : fs' = fs) :
      Saves path job fs fs' fault (.answered result)
  | brokenOff {breach : Breach} {result : RunResult} {data : List UInt8}
      (failure : SaveFailure result) (encodes : job.code.encode = .ok data)
      (begun : Stored path (data.take breach.written) fs fs') :
      Saves path job fs fs' (some breach) (.answered result)
  | stored {run : PendingRun} {data : List UInt8} (plain : run.isScratch = false)
      (encodes : job.code.encode = .ok data) (stored : Stored path data fs fs') :
      Saves path job fs fs' none (.waiting run)

theorem prepareFile_stores {toolchain : String} {settings : Settings} {data : List UInt8}
    {phase : Phase RunResult PendingRun} (orderly : s.host.files.Orderly)
    (straight : s.host.files.Straight path) (encodes : job.code.encode = .ok data)
    (h : s.prepareFile toolchain path settings data fault = (.ok phase, after)) :
    Saves path job s.host.files after.host.files fault phase := by
  unfold prepareFile Host.absolute at h
  rcases is_file : s.host.files.absolute path with t | file
  · rw [is_file] at h
    cases h
  rw [is_file] at h
  dsimp only at h
  rcases s.host.write_cases file data fault with ⟨t, refused, is⟩ | ⟨files, written, is⟩ <;>
    rw [is] at h <;> dsimp only at h
  · split at h
    · cases h
      refine .failed ⟨_, rfl⟩ (fun data' file' encodes' is_file' => ⟨t, ?_⟩) rfl
      rw [← Except.ok.inj (is_file.symm.trans is_file'),
        ← Except.ok.inj (encodes.symm.trans encodes')]
      exact refused
    · cases h
  · have stored := straight.stored orderly is_file written
    cases fault with
    | none =>
      dsimp only at h
      split at h
      · cases h
      · cases h
        exact .stored rfl encodes stored
    | some breach =>
      dsimp only at h
      split at h
      · cases h
        exact .brokenOff ⟨_, rfl⟩ encodes stored
      · cases h

/-- **Preparing**: a run that has a path saves its code, or says that it could not. -/
theorem prepareRun_stores {phase : Phase RunResult PendingRun} (orderly : s.host.files.Orderly)
    (given : job.path = some path) (straight : s.host.files.Straight path)
    (h : s.prepareRun job fault refusal = (.ok phase, after)) :
    Saves path job s.host.files after.host.files fault phase := by
  unfold prepareRun at h
  dsimp only at h
  rw [path_kept given straight.nonempty] at h
  split at h
  · cases h
  · rcases encodes : job.code.encode with u | data
    · rw [encodes] at h
      cases h
      exact .failed ⟨_, rfl⟩ (fun data file encodes' _ => nomatch encodes.symm.trans encodes') rfl
    · rw [encodes] at h
      exact prepareFile_stores orderly straight encodes h

/-! ## Targets -/

/-- **Targets**: after a run with a straight path, whose child changes no file, the bytes of the
    code are at the path and no other file has changed.  Or else the answer says that the code could
    not be saved: nothing can be written to the path and no file has changed, or the writing has been
    broken off and a beginning of the code is there. -/
theorem run_writes_target {result : RunResult} (orderly : s.host.files.Orderly)
    (given : job.path = some path) (straight : s.host.files.Straight path)
    (idle : ∀ launch launched, (child launch launched).2.host.files = launched.host.files)
    (returns : s.run job fault child refusal = (.ok result, after)) :
    Refused s.host.files path job ∧ SaveFailure result ∧ after.host.files = s.host.files ∨
      (∃ breach data, fault = some breach ∧ SaveFailure result ∧ job.code.encode = .ok data ∧
        Stored path (data.take breach.written) s.host.files after.host.files) ∨
      ∃ data, fault = none ∧ job.code.encode = .ok data ∧ after.host.files.read path = .ok data ∧
        Stored path data s.host.files after.host.files := by
  unfold run at returns
  rcases prepared : s.prepareRun job fault refusal with ⟨e | phase, launched⟩
  · rw [prepared] at returns
    cases returns
  · rw [prepared] at returns
    have saves := prepareRun_stores orderly given straight prepared
    cases saves with
    | failed failure refused same =>
      cases returns
      exact Or.inl ⟨refused, failure, same⟩
    | @brokenOff breach _ data failure encodes begun =>
      cases returns
      exact Or.inr (Or.inl ⟨breach, data, rfl, failure, encodes, begun⟩)
    | @stored run data plain encodes stored =>
      have files := finishRun_files (s := (child run.launch launched).2) plain
        (child run.launch launched).1 refusal
      rw [show (child run.launch launched).2.finishRun run (child run.launch launched).1 refusal =
        (.ok result, after) from returns, idle] at files
      rw [show after.host.files = launched.host.files from files]
      exact Or.inr (Or.inr ⟨data, rfl, encodes, stored.read, stored⟩)

/-- A program that ends well and changes nothing. -/
def succeeding (_ : Launch) (s : Service) : Ending × Service := (.exited 0 [], s)

/-- Two files, a directory, and a link into that directory; relative paths start at `/w`. -/
def linkedFiles : FileSystem where
  entries := [("w", .directory [
    ("d", .directory [("sub", .directory []), ("x.go", .file [100] false)]),
    ("link", .link "d/sub"),
    ("x.go", .file [119] false)])]
  current := ⟨["w"], 0⟩

/-- The same after a run has written to `/w/x.go`. -/
def linkedWritten : FileSystem where
  entries := [("w", .directory [
    ("d", .directory [("sub", .directory []), ("x.go", .file [100] false)]),
    ("link", .link "d/sub"),
    ("x.go", .file [120] false)])]
  current := ⟨["w"], 0⟩

theorem orderly_linkedFiles : linkedFiles.Orderly where
  proper := by
    simp only [linkedFiles, Proper]
    decide
  stands := stands_of_dirAt ⟨_, rfl⟩
  names := by decide
  targets := by
    intro route target h
    have routes : linkRoutes linkedFiles.entries = [["w", "link"]] := by
      simp [linkedFiles, linkRoutes]
    have listed := mem_linkRoutes_of_at? (at?_of_leafAt h)
    rw [routes, List.mem_singleton] at listed
    subst listed
    obtain rfl : target = "d/sub" := by
      have is : leafAt ["w", "link"] linkedFiles.entries = some (.link "d/sub") := rfl
      exact (Entry.link.inj (Option.some.inj (is.symm.trans h))).symm
    decide

theorem leadsTo_x : LeadsTo "/w/x.go" ["w", "x.go"] := ⟨rfl, rfl, by decide⟩

theorem passable_x : Passable "/w/x.go" := leadsTo_x.passable (by decide) (by decide)

theorem write_linkedFiles : linkedFiles.write "/w/x.go" [120] = .ok linkedWritten :=
  leadsTo_x.write passable_x (by decide)
    (rfl : Entry.at? ["w", "x.go"] linkedFiles.entries = some (.file [119] false)) [120]

theorem solid_x : Solid "x.go" := ⟨by decide, by decide, by decide⟩

theorem entered_d : Entered linkedFiles ["d", "w"] := by
  refine ⟨⟨by decide, by decide, by decide⟩, maxLinks, ⟨["w"], 0⟩, _, ?_, rfl⟩
  show Arrives linkedFiles maxLinks ⟨[], 0⟩ ["w"] maxLinks ⟨[] ++ ["w"], 0⟩
  exact arrives_names ⟨_, rfl⟩ (by decide) (by decide)

theorem straight_back : linkedFiles.Straight "d/../x.go" where
  nonempty := by decide
  no_nul := by decide
  short := by decide
  no_slash := by decide
  no_dot := by decide
  retraces :=
    .onward ⟨by decide, by decide, by decide⟩ (.back entered_d (.onward solid_x .done))
  working := by decide

theorem run_writes_target_back : linkedFiles.Orderly ∧ linkedFiles.Straight "d/../x.go" ∧
    (∀ launch launched, (succeeding launch launched).2.host.files = launched.host.files) ∧
    ∃ result after,
      (serving linkedFiles).run (jobAt (some "d/../x.go")) none succeeding = (.ok result, after) ∧
        after.host.files.read "d/../x.go" = .ok [120] := by
  have placeable : (serving linkedFiles).Placeable "/w/x.go" := by
    rintro root ⟨⟩
    have leads : LeadsTo "/w" ["w"] := ⟨rfl, rfl, by decide⟩
    exact ⟨leads.resolvable orderly_linkedFiles
        (rfl : Entry.at? ["w"] linkedFiles.entries = some (.directory _)) nofun,
      leadsTo_x.resolvable orderly_linkedFiles
        (rfl : Entry.at? ["w", "x.go"] linkedFiles.entries = some (.file [119] false)) nofun⟩
  have runnable :
      (serving linkedFiles).Runnable (jobAt (some "d/../x.go")) none succeeding none := by
    show (serving linkedFiles).Runnable _ none (fun _ launched => (.exited 0 [], launched)) none
    refine .of_idle orderly_linkedFiles ?_ bySystem_none (fun _ h => nomatch h)
    rintro path ⟨⟩ -
    refine ⟨by decide, Or.inr rfl, ?_⟩
    rintro file ⟨⟩
    exact placeable
  obtain ⟨result, answers⟩ := run_ok orderly_linkedFiles runnable
  have returns : (serving linkedFiles).run (jobAt (some "d/../x.go")) none succeeding =
    (.ok result, _) := Prod.ext answers rfl
  refine ⟨orderly_linkedFiles, straight_back, fun _ _ => rfl, result, _, returns, ?_⟩
  obtain ⟨refused, -⟩ | ⟨breach, -, broken, -⟩ | ⟨data, -, encodes, stored, -⟩ :=
    run_writes_target orderly_linkedFiles rfl straight_back (fun _ _ => rfl) returns
  · obtain ⟨t, refuses⟩ := refused [120] "/w/x.go" encode_x rfl
    exact nomatch write_linkedFiles.symm.trans refuses
  · cases broken
  · rw [stored, Except.ok.inj (encodes.symm.trans encode_x)]

/-- Going up from the link comes to the other file, which has not been written. -/
theorem read_linkedWritten : linkedWritten.read "link/../x.go" = .ok [100] := by
  -- `..` goes up from where the link leads, and not from where it is
  have arrives : Arrives linkedWritten maxLinks ⟨["w"], 0⟩ ["link", ".."] 39 ⟨["w", "d"], 0⟩ := by
    have naming : Naming "link" ∧ Naming "d" ∧ Naming "sub" := by
      refine ⟨⟨?_, ?_, ?_⟩, ⟨?_, ?_, ?_⟩, ?_, ?_, ?_⟩ <;> decide
    have found : Entry.child? "link" (linkedWritten.entriesAt ⟨["w"], 0⟩) =
      some (.link "d/sub") := rfl
    exact .follows naming.1 found (.enters naming.2.1 rfl (.enters naming.2.2 rfl (.rises .done)))
  have walks : linkedWritten.walk .look false maxLinks ⟨["w"], 0⟩ ["link", "..", "x.go"] =
      .ok (.object ⟨["w", "d", "x.go"], 0⟩ (.file [100] false)) := by
    have byName : ByName .look false "x.go" [] :=
      .of_looks (by decide) (by decide) (by decide) (by decide)
    have found : Entry.child? "x.go" (linkedWritten.entriesAt ⟨["w", "d"], 0⟩) =
      some (.file [100] false) := rfl
    rw [show ["link", "..", "x.go"] = ["link", ".."] ++ ["x.go"] from rfl,
      arrives.walk_append (by decide), byName.walk_settled (by
        rw [found]; exact fun _ h => ⟨_, _, (Option.some.inj h).symm⟩), found]
    rfl
  have reaches : linkedWritten.reach .look "link/../x.go" = _ :=
    (reach_of_passable (by decide) (by decide) (by decide)).trans walks
  unfold FileSystem.read FileSystem.find
  rw [reaches]

/-- A run with a path that goes up from a link writes another file than the one at the path. -/
theorem run_misses_target : ∃ result after,
    ({ serving linkedFiles with workspace := none } : Service).run (jobAt (some "link/../x.go"))
      none succeeding = (.ok result, after) ∧
    ¬ SaveFailure result ∧ after.host.files.read "link/../x.go" = .ok [100] ∧
      linkedFiles.read "/w/x.go" = .ok [119] ∧ after.host.files.read "/w/x.go" = .ok [120] := by
  have located : ({ serving linkedFiles with workspace := none } : Service).locate
    [("GOROOT", "/go")] = .ok "/go/bin/go" := rfl
  have absolute : linkedFiles.absolute "link/../x.go" = .ok "/w/x.go" := rfl
  have before : linkedFiles.read "/w/x.go" = .ok [119] :=
    leadsTo_x.read passable_x (by decide) (by decide)
  have replaced : linkedWritten.read "/w/x.go" = .ok [120] :=
    leadsTo_x.read passable_x (by decide) (by decide)
  unfold run
  rw [prepareRun_of_path located encode_x rfl (by decide)]
  unfold prepareFile Host.absolute
  dsimp only [serving]
  rw [absolute]
  dsimp only
  rw [Host.write_of_ok write_linkedFiles]
  refine ⟨_, _, rfl, ?_, read_linkedWritten, before, replaced⟩
  rintro ⟨why, is⟩
  cases is

end Service

end GoWorkbench
