/-
  Runs that launch nothing.

  A run may end before it comes to a launch: the code cannot be encoded, the file of its path cannot
  be written, no scratch file can be made, or the writing of either is broken off.  Such a run undoes
  what it has begun in a scratch file, but cannot bring back what was in the file of a path.

  1. **Attempts** — the launch that a run attempts is all that it has of its child (`run_congr`).
  2. **Counting** — making a scratch file changes the files and counts the names that it tries
     (`store_leaves`).  Names are never tried again, so the count is not undone.
  3. **Declining** — a run that answers without a launch says what went wrong, and has done nothing
     but count names, unless the system has broken off the writing of its file or kept its scratch
     file (`prepareRun_declines`).
  4. **Overwriting** — a launch finds the code in the file of its path (`attempt_overwrites`).
-/
import GoWorkbench.Proofs.Service.Scratch
import GoWorkbench.Proofs.Service.Targets
import GoWorkbench.Proofs.Service.Phases

namespace GoWorkbench

open Entry FileSystem

namespace Service

variable {s after launched stored : Service} {job : RunJob} {fault : Option Breach}
  {refusal : Option Trouble} {child child' : Launch → Service → Ending × Service}
  {launch : Launch} {result : RunResult} {path : String}

/-! ## Attempts -/

/-- What a run attempts to launch, and the service at that moment. -/
def attempt? (s : Service) (job : RunJob) (fault : Option Breach) :
    Option (Launch × Service) :=
  match s.prepareRun job fault with
  | (.ok (.waiting run), launched) => some (run.launch, launched)
  | _ => none

theorem attempt?_eq_some : s.attempt? job fault = some (launch, launched) ↔
    ∃ run, s.prepareRun job fault = (.ok (.waiting run), launched) ∧ run.launch = launch := by
  unfold attempt?
  constructor
  · intro h
    split at h
    · rename_i run launched' prepared
      cases h
      exact ⟨run, prepared, rfl⟩
    · cases h
  · rintro ⟨run, prepared, rfl⟩
    rw [prepared]

theorem attempt?_eq_none : s.attempt? job fault = none ↔
    ∀ run launched, s.prepareRun job fault ≠ (.ok (.waiting run), launched) := by
  rw [Option.eq_none_iff_forall_not_mem]
  constructor
  · intro none run launched prepared
    exact none (run.launch, launched) (attempt?_eq_some.mpr ⟨run, prepared, rfl⟩)
  · rintro never ⟨launch, launched⟩ h
    obtain ⟨run, prepared, -⟩ := attempt?_eq_some.mp h
    exact never run launched prepared

/-- A run that comes to a launch has had no scratch file to remove. -/
theorem prepareRun_unrefused {run : PendingRun}
    (prepared : s.prepareRun job fault refusal = (.ok (.waiting run), launched)) :
    s.prepareRun job fault = (.ok (.waiting run), launched) :=
  prepareRun_waiting_iff.mpr (prepareRun_waiting_iff.mp prepared)

/-- **Attempts**: a run has no more of its child than what becomes of the launch it attempts. -/
theorem run_congr (alike : ∀ launch launched, s.attempt? job fault = some (launch, launched) →
    child launch launched = child' launch launched) :
    s.run job fault child refusal = s.run job fault child' refusal := by
  unfold run
  rcases prepared : s.prepareRun job fault refusal with ⟨e | result | run, launched⟩
  · rfl
  · rfl
  · have attempts := attempt?_eq_some.mpr ⟨run, prepareRun_unrefused prepared, rfl⟩
    dsimp only
    rw [alike run.launch launched attempts]

/-! ## Counting -/

/-- Nothing has been done but that names of scratch files may have been counted. -/
def Untouched (s after : Service) : Prop :=
  ∃ n, after = { s with host := { s.host with scratchNames := n } }

/-- Nothing has changed but files, and how many names of scratch files have been tried. -/
def FilesOnly (s after : Service) : Prop :=
  ∃ n, after = { s with host := { s.host with scratchNames := n, files := after.host.files } }

theorem FilesOnly.untouched (h : FilesOnly s after) (same : after.host.files = s.host.files) :
    Untouched s after := by
  obtain ⟨n, is⟩ := h
  rw [same] at is
  exact ⟨n, is⟩

theorem makeScratch_counts (h : Host) (data : List UInt8) (tries : Nat) :
    ∃ n, (makeScratch h data tries).2 =
      { h with scratchNames := n, files := (makeScratch h data tries).2.files } := by
  induction tries generalizing h with
  | zero => exact ⟨_, rfl⟩
  | succ tries ih =>
    rw [makeScratch]
    dsimp only
    split
    · exact ⟨_, rfl⟩
    · exact ih { h with scratchNames := h.scratchNames + 1 }
    · exact ⟨_, rfl⟩

theorem storeFile_leaves (s : Service) (path : String) (data : List UInt8)
    (fault : Option Breach) : FilesOnly s (s.storeFile path data fault).2 := by
  unfold storeFile
  split
  · exact ⟨_, rfl⟩
  · rename_i file _
    rcases s.host.write_cases file data fault with ⟨t, -, is⟩ | ⟨files, -, is⟩ <;> rw [is]
    · dsimp only
      split <;> exact ⟨_, rfl⟩
    · cases fault with
      | none => exact ⟨_, rfl⟩
      | some breach =>
        dsimp only
        split <;> exact ⟨_, rfl⟩

theorem storeScratch_leaves (s : Service) (data : List UInt8) :
    FilesOnly s (s.storeScratch data).2 := by
  obtain ⟨n, counted⟩ := makeScratch_counts s.host data maxScratchNames
  unfold storeScratch
  generalize makeScratch s.host data maxScratchNames = made at counted ⊢
  obtain ⟨made, host⟩ := made
  dsimp only at counted ⊢
  have is : ({ s with host } : Service) =
      { s with host := { s.host with scratchNames := n, files := host.files } } := by
    rw [← counted]
  cases made <;> exact ⟨n, is⟩

/-- **Counting**: storing code changes files, and counts the names that it tries. -/
theorem store_leaves (s : Service) (job : RunJob) (fault : Option Breach) :
    FilesOnly s (s.store job fault).2 := by
  unfold store
  split
  · exact ⟨_, rfl⟩
  · exact ⟨_, rfl⟩
  · exact storeFile_leaves s _ _ _
  · exact storeScratch_leaves s _

/-- What has been made as a scratch file is taken back without a trace. -/
theorem FilesOnly.taken_back (h : FilesOnly s stored)
    (removes : stored.host.files.remove path = .ok s.host.files) :
    Untouched s (stored.removeScratch path) := by
  obtain ⟨n, is⟩ := h
  refine ⟨n, ?_⟩
  unfold removeScratch
  rw [removes]
  dsimp only
  rw [is]

/-! ## Declining -/

/-- The answer says what went wrong, and that nothing has been written by a child. -/
def Declines (result : RunResult) : Prop :=
  result.error.isSome ∧ result.output = ""

theorem Unstored.declines (h : Unstored job result) : Declines result := by
  cases h <;> unfold unstored <;> split <;> exact ⟨rfl, rfl⟩

/-- How a run comes to an answer without a launch: its code has not been stored, or the writing of
    its scratch file has been broken off. -/
theorem prepareRun_answered (h : s.prepareRun job fault refusal = (.ok (.answered result), after)) :
    s.store job fault = (.ok (.answered result), after) ∨
      ∃ breach source stored why, fault = some breach ∧
        s.store job fault = (.ok (.waiting source), stored) ∧ result = unmade why ∧
        after = stored.removeScratch source.file refusal := by
  rw [prepareRun_eq] at h
  split at h
  · cases h
  · rename_i toolchain _
    split at h
    · cases h
    · rename_i answered stored is
      cases h
      exact Or.inl is
    · rename_i source stored is
      cases fault with
      | some breach =>
        obtain ⟨how, written⟩ := breach
        cases how with
        | system why =>
          cases h
          exact Or.inr ⟨_, source, stored, why, rfl, is, rfl, rfl⟩
        | value why => cases h
        | other why => cases h
      | none =>
        dsimp only at h
        generalize stored.launchSource toolchain source (s.withRoot job.settings) = launched at h
        obtain ⟨e | run, launched⟩ := launched <;> cases h

/-- What a run leaves that answers without a launch. -/
inductive Leaves (s : Service) (job : RunJob) :
    Option Breach → Option Trouble → Service → Prop
  /-- Everything is as it was, but for the count of names that have been tried for scratch files. -/
  | untouched {fault : Option Breach} {refusal : Option Trouble} {after : Service}
      (untouched : Untouched s after) : Leaves s job fault refusal after
  /-- The writing of the file has been broken off, and a beginning of the code is in it. -/
  | begun {breach : Breach} {refusal : Option Trouble} {after : Service} {path file : String}
      {data : List UInt8} (given : job.path = some path) (some_path : path ≠ "")
      (encodes : job.code.encode = .ok data) (absolute : s.host.files.absolute path = .ok file)
      (begun : Stored file (data.take breach.written) s.host.files after.host.files)
      (only : FilesOnly s after) : Leaves s job (some breach) refusal after
  /-- The writing of the scratch file has been broken off, and it cannot be removed. -/
  | kept {breach : Breach} {t : Trouble} {after : Service} {n : Nat} {location : Place}
      (needed : needsScratch job)
      (made : Made s.host.temporary n location s.host.files after.host.files)
      (keeps : Keeps s after) : Leaves s job (some breach) (some t) after

/-- **Declining**: a run that comes to an answer without a launch has an error to tell, and has done
    nothing but count names, unless the system is in its way. -/
theorem prepareRun_declines (orderly : s.host.files.Orderly)
    (placed : needsScratch job → Path.isAbsolute s.host.temporary = true ∧
      Path.normalize s.host.temporary = s.host.temporary)
    (h : s.prepareRun job fault refusal = (.ok (.answered result), after)) :
    Declines result ∧ Leaves s job fault refusal after := by
  have keeps := prepareRun_keeps s job fault refusal
  have leaves := store_leaves s job fault
  have stores := store_stores s job fault
  rw [h] at keeps
  rcases prepareRun_answered h with is | ⟨breach, source, stored, why, rfl, is, rfl, rfl⟩
  · rw [is] at leaves stores
    cases stores with
    | declined unstored same => exact ⟨unstored.declines, .untouched (leaves.untouched same)⟩
    | brokenOff given encodes absolute begun unstored =>
      obtain ⟨given, some_path⟩ := Option.filter_eq_some_iff.mp given
      exact ⟨unstored.declines, .begun given (fun none => by simp [none] at some_path) encodes
        absolute (stored_of_write orderly begun) leaves⟩
  · rw [is] at leaves stores
    cases stores with
    | scratch needed encodes created =>
      obtain ⟨absolute, normal⟩ := placed needed
      obtain ⟨location, made⟩ := made_of_createNew orderly.stands absolute normal created
      refine ⟨⟨rfl, rfl⟩, ?_⟩
      rw [made.normal] at keeps ⊢
      cases refusal with
      | none => exact .untouched (leaves.taken_back made.removes)
      | some t =>
        rw [← removeScratch_error (remove_refused made.removes t)] at made
        exact .kept needed made keeps

/-! ## Overwriting -/

/-- **Overwriting**: what is launched for a job with a path runs the file of the path, which holds
    the code by then, and nothing else has changed. -/
theorem attempt_overwrites (orderly : s.host.files.Orderly) (given : job.path = some path)
    (some_path : path ≠ "") (attempts : s.attempt? job fault = some (launch, launched)) :
    ∃ data toolchain file, job.code.encode = .ok data ∧
      s.host.files.absolute path = .ok file ∧ launch.words = [toolchain, "run", file] ∧
      Stored file data s.host.files launched.host.files ∧
      (s.host.files.Straight path → Stored path data s.host.files launched.host.files) := by
  obtain ⟨run, prepared, rfl⟩ := attempt?_eq_some.mp attempts
  obtain ⟨-, toolchain, source, stored, -, is, launches⟩ := prepareRun_waiting_iff.mp prepared
  obtain ⟨files, -, -, -, -, words, -⟩ := launchSource_ok launches
  have stores := store_stores s job none
  have kept := path_kept given some_path
  rw [is] at stores
  rw [files]
  cases stores with
  | @file path' file data _ given' encodes absolute written =>
    obtain rfl : path' = path := Option.some.inj (given'.symm.trans kept)
    exact ⟨data, toolchain, file, encodes, absolute, words, stored_of_write orderly written,
      fun straight => straight.stored orderly absolute written⟩
  | scratch needed encodes created => exact nomatch needed.symm.trans kept

/-- A run that answers without having attempted a launch tells an error, has no output, and has left
    everything as it was, but for the count of names that have been tried for scratch files; unless
    the system has broken off a writing, of which the file of the path keeps a beginning, and the
    scratch file one if it cannot be removed.  A run that attempts a launch for a job with a path has
    the code in its file by then: the file of the path as it is said from the root, and so the one at
    the path itself, if that is straight.  The directory for scratch files is given from the root and
    in its normal form, as a system gives it. -/
theorem run_changes_by_launching (orderly : s.host.files.Orderly)
    (placed : needsScratch job → Path.isAbsolute s.host.temporary = true ∧
      Path.normalize s.host.temporary = s.host.temporary) :
    (∀ result after, s.attempt? job fault = none →
      s.run job fault child refusal = (.ok result, after) →
        result.error.isSome ∧ result.output = "" ∧ Leaves s job fault refusal after) ∧
    ∀ path launch launched, job.path = some path → path ≠ "" →
      s.attempt? job fault = some (launch, launched) →
        ∃ data toolchain file, job.code.encode = .ok data ∧
          s.host.files.absolute path = .ok file ∧ launch.words = [toolchain, "run", file] ∧
          Stored file data s.host.files launched.host.files ∧
          (s.host.files.Straight path → Stored path data s.host.files launched.host.files) := by
  refine ⟨fun result after unattempted returns => ?_, fun path launch launched given some_path =>
    attempt_overwrites orderly given some_path⟩
  unfold run at returns
  -- Without a launch the run has been answered by its first phase, whatever the child would do.
  rcases prepared : s.prepareRun job fault refusal with ⟨e | answered | run, ended⟩
  · rw [prepared] at returns
    cases returns
  · rw [prepared] at returns
    cases returns
    obtain ⟨⟨tells, silent⟩, leaves⟩ := prepareRun_declines orderly placed prepared
    exact ⟨tells, silent, leaves⟩
  · exact absurd (prepareRun_unrefused prepared) (attempt?_eq_none.mp unattempted run ended)

theorem orderly_takenFiles : takenFiles.Orderly := by
  refine Sound.orderly ⟨?_, linkFree_of_countLinks (by simp [takenFiles, countLinks]),
    stands_root _, by decide⟩
  simp only [takenFiles, Proper]
  decide

/-- A service without a workspace. -/
def servingNone (files : FileSystem) : Service := { serving files with workspace := none }

/-- A full disk breaks off the writing of a scratch file that has been made. -/
theorem prepareRun_full : ∃ after, (serving takenFiles).prepareRun (jobAt none) (some .full) =
    (.ok (.answered (unmade "No space left on device")), after) := by
  obtain ⟨host, makes⟩ := makeScratch_taken []
  unfold prepareRun
  dsimp only
  rw [show (serving takenFiles).locate (jobAt none).settings = _ from locate_over takenFiles,
    show (jobAt none).code.encode = _ from encode_x]
  show ∃ after, (serving takenFiles).prepareScratch _ _ _ _ = _
  unfold prepareScratch
  rw [show Breach.kept (some .full) [120] = [] from rfl, makes]
  exact ⟨_, rfl⟩

/-- Code at a path that says `/w/x.go` from the root is written there and comes to a launch. -/
theorem attempt?_linkedFiles (path : String) (some_path : path ≠ "")
    (absolute : linkedFiles.absolute path = .ok "/w/x.go") : ∃ launch launched,
    (servingNone linkedFiles).attempt? (jobAt (some path)) none = some (launch, launched) ∧
      launched.host.files = linkedWritten := by
  have located : (servingNone linkedFiles).locate [("GOROOT", "/go")] = .ok "/go/bin/go" := rfl
  unfold attempt?
  rw [prepareRun_of_path located encode_x rfl some_path]
  unfold prepareFile Host.absolute
  dsimp only [servingNone, serving]
  rw [absolute]
  dsimp only
  rw [Host.write_of_ok write_linkedFiles]
  exact ⟨_, _, rfl, rfl⟩

/-- A disk that is full when the scratch file is to be filled leaves nothing of it; a run of a path
    that goes through a directory and back finds its code there. -/
theorem run_changes_by_launching_only :
    (takenFiles.Orderly ∧ Path.isAbsolute "/tmp" = true ∧ Path.normalize "/tmp" = "/tmp" ∧
      ∃ result after,
        (serving takenFiles).attempt? (jobAt none) (some .full) = none ∧
        (serving takenFiles).run (jobAt none) (some .full) failing = (.ok result, after) ∧
        result.error.isSome ∧ after.host.files = takenFiles) ∧
    (linkedFiles.Orderly ∧ ¬ needsScratch (jobAt (some "d/../x.go")) ∧ ∃ launch launched,
      (servingNone linkedFiles).attempt? (jobAt (some "d/../x.go")) none =
        some (launch, launched) ∧
        launched.host.files.read "d/../x.go" = .ok [120]) := by
  have placed : ¬ needsScratch (jobAt (some "d/../x.go")) := by
    unfold needsScratch
    decide
  refine ⟨⟨orderly_takenFiles, rfl, rfl, ?_⟩, orderly_linkedFiles, placed, ?_⟩
  · obtain ⟨ended, prepared⟩ := prepareRun_full
    have unattempted : (serving takenFiles).attempt? (jobAt none) (some .full) = none :=
      attempt?_eq_none.mpr fun _ _ waiting => nomatch prepared.symm.trans waiting
    have returns : (serving takenFiles).run (jobAt none) (some .full) failing =
        (.ok (unmade "No space left on device"), ended) := by
      unfold Service.run
      rw [prepared]
    obtain ⟨tells, -, leaves⟩ :=
      (@run_changes_by_launching (serving takenFiles) _ _ none failing orderly_takenFiles
        fun _ => ⟨rfl, rfl⟩).1 _ _ unattempted returns
    refine ⟨_, _, unattempted, returns, tells, ?_⟩
    cases leaves with
    | untouched untouched =>
      obtain ⟨n, rfl⟩ := untouched
      rfl
    | begun given => cases given
  · obtain ⟨launch, launched, attempts, -⟩ := attempt?_linkedFiles "d/../x.go" (by decide) rfl
    obtain ⟨data, toolchain, file, encodes, -, -, -, lands⟩ :=
      (@run_changes_by_launching (servingNone linkedFiles) _ none none failing orderly_linkedFiles
        fun needed => absurd needed placed).2 _ _ _ rfl (by decide) attempts
    refine ⟨launch, launched, attempts, ?_⟩
    rw [(lands straight_back).read, Except.ok.inj (encodes.symm.trans encode_x)]

/-- A full disk leaves nothing in the file of a run that launches nothing.  And a run whose path goes
    up from a link launches its child with other code at the path. -/
theorem run_changes_before_launching :
    ((serving oneFile).attempt? (jobAt (some "/w/a.go")) (some .full) = none ∧
      oneFile.read "/w/a.go" = .ok [112] ∧ ∃ result after,
        (serving oneFile).run (jobAt (some "/w/a.go")) (some .full) failing = (.ok result, after) ∧
        after.host.files.read "/w/a.go" = .ok []) ∧
    ∃ launch launched, (servingNone linkedFiles).attempt? (jobAt (some "link/../x.go")) none =
        some (launch, launched) ∧
      launched.host.files.read "link/../x.go" = .ok [100] := by
  refine ⟨?_, ?_⟩
  · have absolute : (serving oneFile).host.absolute "/w/a.go" = .ok "/w/a.go" := rfl
    have begun : (serving oneFile).host.files.write "/w/a.go" [] = _ := write_oneFile []
    have prepared : ∃ answered after,
        (serving oneFile).prepareRun (jobAt (some "/w/a.go")) (some .full) =
          (.ok (.answered answered), after) ∧
        after.host.files = ⟨[("w", .directory [("a.go", .file [] false)])], .root⟩ := by
      rw [prepareRun_of_path (locate_over _) encode_x rfl (by decide)]
      unfold prepareFile Host.write
      rw [absolute, show Breach.kept (some .full) [120] = [] from rfl]
      dsimp only
      rw [begun]
      exact ⟨_, _, rfl, rfl⟩
    obtain ⟨answered, after, prepared, files⟩ := prepared
    refine ⟨attempt?_eq_none.mpr fun _ _ waiting => (nomatch prepared.symm.trans waiting),
      leadsTo_file.read passable_file (by decide) (by decide), answered, after, ?_, ?_⟩
    · unfold Service.run
      rw [prepared]
    · rw [files]
      exact leadsTo_file.read passable_file (by decide) (by decide)
  · obtain ⟨launch, launched, attempts, files⟩ :=
      attempt?_linkedFiles "link/../x.go" (by decide) rfl
    refine ⟨launch, launched, attempts, ?_⟩
    rw [files]
    exact read_linkedWritten

end Service

end GoWorkbench
