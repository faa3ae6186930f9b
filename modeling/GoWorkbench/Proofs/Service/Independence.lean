/-
  Runs that overlap are independent of each other.

  1. **The invariant** — the files of the runs are lodged, and each run is as it should be at its
     stage (`Sane`).
  2. **Every step** keeps the invariant (`Sane.step`), and so does every run (`Run.sane`).
  3. **Before** — the toolchain of a run has been located with its settings (`Run.located`), and its
     code has been stored where the path of its job leads (`Run.target`).
  4. **Independence** — what a child is told to run is the code of its job, what a run answers is
     made of what its child has done, and in the end there are the files with a path and no other
     (`runs_independent`).
-/
import GoWorkbench.Proofs.Service.Lodging

namespace GoWorkbench

open Entry FileSystem Service

namespace Flights

variable {ι : Type} {jobs : ι → RunJob} {faults : ι → Option Breach}
  {first after : Service} {s s' : Flights ι} {source : Source} {place : List String}
  {data : List UInt8} {i j : ι}

/-! ## The invariant -/

/-- What is known of a run that has come to a stage. -/
def Fits (platform : Platform) (job : RunJob) (fault : Option Breach) : Stage → Prop
  | .stored _ source => (source.isScratch = true → needsScratch job) ∧
    (source.isScratch = false → fault = none)
  | .running run | .ended run _ | .cleaned run _ => fault = none ∧
    (run.isScratch = true → needsScratch job) ∧ run.launch.words = [run.toolchain, "run", run.file]
  | .answered source child answer =>
    (∀ kept, source = some kept → kept.isScratch = false ∧ fault = none) ∧
    (source = none → child ≠ none → needsScratch job) ∧
    ∀ result, answer = .ok result → match child with
      | some (toolchain, ending) => ∃ raw error, ending.outcome = .ok (raw, error) ∧
        result = resultOf platform toolchain raw error
      | none => Unstored job result
  | _ => True

/-- The invariant: the setup has stayed, the files are in order, and each run is as it should be. -/
structure Sane (jobs : ι → RunJob) (faults : ι → Option Breach) (first : Service)
    (s : Flights ι) : Prop where
  setup : SameSetup first s.service
  lodged : Lodged jobs faults s.sources s.beside s.service.host.files
  fits : ∀ i, Fits first.platform (jobs i) (faults i) (s.stages i)

theorem Sane.start (orderly : first.host.files.Orderly) :
    Sane jobs faults first (start first : Flights ι) where
  setup := .refl first
  lodged := .start orderly
  fits := fun _ => trivial

theorem sources_of {stage : Stage} (here : s.stages i = stage) : s.sources i = stage.source? := by
  unfold Flights.sources
  rw [here]

theorem Sane.fit (sane : Sane jobs faults first s) {stage : Stage} (here : s.stages i = stage) :
    Fits first.platform (jobs i) (faults i) stage := here ▸ sane.fits i

/-- A run that ends with an error and without a file is as it should be. -/
theorem fits_error {platform : Platform} {job : RunJob} {fault : Option Breach} (e : Failure) :
    Fits platform job fault (.answered none none (.error e)) :=
  ⟨nofun, fun _ childless => absurd rfl childless, nofun⟩

/-- A run that has not stored its code is as it should be. -/
theorem fits_unstored {platform : Platform} {s after : Service} {answer : Except Failure RunResult}
    (stores : s.store (jobs i) (faults i) = (answer.map .answered, after)) :
    SameSetup s after ∧ Fits platform (jobs i) (faults i) (.answered none none answer) := by
  have setup := store_setup s (jobs i) (faults i)
  have storing := store_stores s (jobs i) (faults i)
  rw [stores] at setup storing
  exact ⟨setup, nofun, fun _ childless => absurd rfl childless, storing.unstored⟩

variable [DecidableEq ι]

/-- The other runs are at their stages as before. -/
theorem Sane.fits_become (sane : Sane jobs faults first s) (after : Service) {stage : Stage}
    (fits : Fits first.platform (jobs i) (faults i) stage) (j : ι) :
    Fits first.platform (jobs j) (faults j) ((s.become i stage after).stages j) := by
  by_cases own : j = i
  · rw [own, become_self]
    exact fits
  · rw [become_other own]
    exact sane.fits j

/-- A run comes to another stage. -/
theorem Sane.become (sane : Sane jobs faults first s) {stage : Stage}
    (setup : SameSetup s.service after) (fits : Fits first.platform (jobs i) (faults i) stage)
    (lodged : Lodged jobs faults (Function.update s.sources i stage.source?) s.beside
      after.host.files) :
    Sane jobs faults first (s.become i stage after) where
  setup := sane.setup.trans setup
  lodged := by
    rw [sources_become]
    exact lodged
  fits := sane.fits_become after fits

/-- A run comes to another stage without a change to files. -/
theorem Sane.goOn (sane : Sane jobs faults first s) {stage : Stage}
    (setup : SameSetup s.service after) (files : after.host.files = s.service.host.files)
    (source : stage.source? = s.sources i)
    (fits : Fits first.platform (jobs i) (faults i) stage) :
    Sane jobs faults first (s.become i stage after) := by
  refine sane.become setup fits ?_
  rw [source, Function.update_eq_self, files]
  exact sane.lodged

/-- Storing code gives it a file of its own. -/
theorem Sane.store (sane : Sane jobs faults first s)
    (absolute : Path.isAbsolute first.host.temporary = true)
    (normal : Path.normalize first.host.temporary = first.host.temporary) {toolchain : String}
    (here : s.stages i = .called toolchain)
    (stores : s.service.store (jobs i) (faults i) = (.ok (.waiting source), after))
    (apart : source.isScratch = false → ∀ j other, j ≠ i → s.sources j = some other →
      Apart after.host.files source.file other.file) :
    Sane jobs faults first (s.become i (.stored toolchain source) after) := by
  have idle : s.sources i = none := sources_of here
  have not_own : ∀ j other, s.sources j = some other → j ≠ i := by
    rintro j other has rfl
    rw [idle] at has
    cases has
  have setup := store_setup s.service (jobs i) (faults i)
  have storing := store_stores s.service (jobs i) (faults i)
  rw [stores] at setup storing
  rw [← sane.setup.temporary] at absolute normal
  have orderly := sane.lodged.orderly
  generalize is_fault : faults i = fault at storing
  cases storing with
  | file given encodes is_file written =>
    obtain ⟨orderly', place, executable, found, same⟩ := stored_of_write orderly written
    refine sane.become setup ⟨nofun, fun _ => is_fault⟩
      (sane.lodged.gain idle same orderly' encodes ?_ ?_ fun scratch => nomatch scratch)
    · rw [is_fault]
      exact ⟨executable, reach_of_find found⟩
    rintro j other place' data' has ⟨_, reaches⟩
    exact (apart rfl j other (not_own j other has) has).elsewhere same orderly' found reaches
  | @scratch _ n data _ needed encodes created =>
    obtain ⟨_, made⟩ := made_of_createNew orderly.stands absolute normal created
    obtain ⟨place, free, same, orderly', reaches⟩ :=
      new_of_createNew orderly (inDirectory_scratchPath absolute n).plain created
    have nothing : leafAt place s.service.host.files.entries = none := by
      unfold leafAt
      rw [free]
    rw [made.normal] at stores ⊢
    rw [← is_fault] at reaches
    refine sane.become setup ⟨fun _ => needed, nofun⟩
      (sane.lodged.gain idle same orderly' encodes ⟨false, reaches⟩ ?_ fun _ => nothing)
    rintro j other place' data' has ⟨_, reaches'⟩ rfl
    rw [orderly.file_there reaches'] at free
    cases free

/-- Removing a scratch file changes nothing else. -/
theorem Holds.removed {s : Service} (orderly : s.host.files.Orderly)
    (holds : Holds s.host.files source place data) (scratch : source.isScratch = true) :
    (s.removeScratch source.file).host.files.Orderly ∧
      SameBut place s.host.files (s.removeScratch source.file).host.files ∧
      Entry.at? place (s.removeScratch source.file).host.files.entries = none ∧
      ∀ entry, (s.removeScratch source.file).host.files.findLink source.file ≠ .ok entry := by
  obtain ⟨executable, reaches⟩ := holds
  unfold purposeOf at reaches
  rw [if_pos scratch] at reaches
  obtain ⟨files, removes, facts⟩ := removes_file orderly reaches
  rw [removeScratch_ok removes]
  exact facts

/-- Without its scratch file a run has no code in any file. -/
theorem Sane.removeScratch (sane : Sane jobs faults first s) {stage : Stage}
    (here : s.sources i = some source) (scratch : source.isScratch = true)
    (gone : stage.source? = none) (fits : Fits first.platform (jobs i) (faults i) stage) :
    Sane jobs faults first (s.become i stage (s.service.removeScratch source.file)) := by
  obtain ⟨data, place, encodes, holds, -⟩ := sane.lodged.held i source here
  obtain ⟨orderly, same, nothing, -⟩ := holds.removed sane.lodged.orderly scratch
  refine sane.become (removeScratch_setup ..) fits ?_
  rw [gone]
  exact sane.lodged.lose here scratch holds same orderly nothing

/-- A run whose writing is broken off leaves a beginning of its code, where no source is. -/
theorem Sane.breakOff (sane : Sane jobs faults first s) {toolchain path file : String}
    {answer : Except Failure RunResult} {executable : Bool}
    (here : s.stages i = .called toolchain)
    (stores : s.service.store (jobs i) (faults i) = (answer.map .answered, after))
    (given : ((jobs i).path.filter fun p => !p.isEmpty) = some path)
    (is_file : s.service.host.files.absolute path = .ok file)
    (found : after.host.files.find file = .ok (⟨place, 0⟩, .file data executable))
    (apart : ∀ j other, j ≠ i → s.sources j = some other →
      Apart after.host.files file other.file) :
    Sane jobs faults first
      ((s.become i (.answered none none answer) after).leave place (.file data executable)) := by
  obtain ⟨setup, fits⟩ := @fits_unstored _ _ _ _ first.platform _ _ _ stores
  have idle : s.sources i = none := sources_of here
  have orderly := sane.lodged.orderly
  have begun : after.host.files.Orderly ∧ SameBut place s.service.host.files after.host.files := by
    have storing := store_stores s.service (jobs i) (faults i)
    rw [stores] at storing
    rcases storing.begun orderly with same | ⟨path', file', data', given', is_file', begun⟩
    · rw [same] at found ⊢
      refine ⟨orderly, .refl fun target link => ?_⟩
      unfold leafAt at link
      rw [orderly.file_there (reach_of_find found)] at link
      cases link
    · obtain rfl := Option.some.inj (given.symm.trans given')
      obtain rfl := Except.ok.inj (is_file.symm.trans is_file')
      obtain ⟨orderly', place', executable', found', same⟩ := begun
      cases found.symm.trans found'
      exact ⟨orderly', same⟩
  obtain ⟨orderly', same⟩ := begun
  refine ⟨sane.setup.trans setup, ?_, sane.fits_become after fits⟩
  have leaf : leafAt place after.host.files.entries = some (.file data executable) := by
    unfold leafAt
    rw [orderly'.file_there (reach_of_find found)]
  show Lodged jobs faults (s.become i (.answered none none answer) after).sources _ _
  rw [sources_become, show (Stage.answered none none answer).source? = s.sources i from idle.symm,
    Function.update_eq_self]
  refine sane.lodged.begin same orderly' leaf ?_
  rintro j other place' data' has ⟨_, reaches⟩
  refine (apart j other ?_ has).elsewhere same orderly' found reaches
  rintro rfl
  cases idle.symm.trans has

/-- A scratch file that has not been filled goes at once. -/
theorem Sane.abandon (sane : Sane jobs faults first s) {toolchain : String} {breach : Breach}
    (here : s.stages i = .stored toolchain source) (broken : faults i = some breach) :
    Sane jobs faults first
      (s.become i (.answered none none (s.service.abandon source.file none breach.how).1)
        (s.service.abandon source.file none breach.how).2) := by
  obtain ⟨needed, whole⟩ := sane.fit here
  have scratch : source.isScratch = true := by
    by_contra plain
    cases (whole (Bool.eq_false_iff.mpr plain)).symm.trans broken
  have needed := needed scratch
  obtain ⟨data, -, encodes, -⟩ := sane.lodged.held i source (sources_of here)
  rw [abandon_snd]
  refine sane.removeScratch (sources_of here) scratch rfl
    ⟨nofun, fun _ childless => absurd rfl childless, fun result answers => ?_⟩
  obtain ⟨how, written⟩ := breach
  cases how with
  | system why =>
    cases answers
    have unstored := Unstored.system encodes why
    unfold Service.unstored at unstored
    rw [show ((jobs i).path.filter fun p => !p.isEmpty) = none from needed] at unstored
    exact unstored
  | value why => cases answers
  | other why => cases answers

/-- What is launched for a source is launched for its file. -/
theorem source_of_launch {s after : Service} {toolchain : String} {settings : Settings}
    {run : PendingRun} (launches : s.launchSource toolchain source settings = (.ok run, after)) :
    run.source = source := by
  obtain ⟨-, -, -, is_file, is_scratch, -⟩ := launchSource_ok launches
  unfold PendingRun.source
  rw [is_file, is_scratch]

/-- A child that is launched gets the file of its run. -/
theorem Sane.launch (sane : Sane jobs faults first s) {toolchain : String} {settings : Settings}
    {run : PendingRun} (here : s.stages i = .stored toolchain source) (whole : faults i = none)
    (launches : s.service.launchSource toolchain source settings = (.ok run, after)) :
    Sane jobs faults first (s.become i (.running run) after) := by
  have needed := (sane.fit here).1
  have is_source := source_of_launch launches
  obtain ⟨same, setup, is_toolchain, is_file, is_scratch, words, -⟩ := launchSource_ok launches
  refine sane.goOn setup same ?_ ⟨whole, fun scratch => needed (is_scratch ▸ scratch), ?_⟩
  · rw [sources_of here]
    exact congrArg some is_source
  · rw [words, is_toolchain, is_file]

theorem Sane.clean (sane : Sane jobs faults first s) {run : PendingRun} {ending : Ending}
    (here : s.stages i = .ended run ending) :
    Sane jobs faults first (s.become i (.cleaned run ending) (s.service.clean run none)) := by
  have words := sane.fit here
  have held : s.sources i = some run.source := sources_of here
  unfold Service.clean
  split
  · rename_i scratch
    show Sane jobs faults first
      (s.become i (.cleaned run ending) (s.service.removeScratch run.source.file))
    exact sane.removeScratch held scratch (if_pos scratch) words
  · rename_i plain
    exact sane.goOn (.refl _) rfl ((if_neg plain).trans held.symm) words

theorem Sane.conclude (sane : Sane jobs faults first s) {run : PendingRun} {ending : Ending}
    (here : s.stages i = .cleaned run ending) :
    Sane jobs faults first (s.become i
      (.answered run.source.kept (some (run.toolchain, ending)) (s.service.conclude run ending).1)
      (s.service.conclude run ending).2) := by
  obtain ⟨setup, same⟩ := conclude_snd s.service run ending
  refine sane.goOn setup same (sources_of here).symm
    ⟨fun kept is => ?_, fun gone _ => ?_, fun result answers => ?_⟩
  · obtain ⟨plain, rfl⟩ := Source.kept_eq_some.mp is
    exact ⟨plain, (sane.fit here).1⟩
  · unfold Source.kept at gone
    split at gone
    · rename_i scratch
      exact (sane.fit here).2.1 scratch
    · cases gone
  · rw [← sane.setup.platform]
    exact conclude_ok answers

/-- **Every step** keeps the invariant. -/
theorem Sane.step (sane : Sane jobs faults first s)
    (absolute : Path.isAbsolute first.host.temporary = true)
    (normal : Path.normalize first.host.temporary = first.host.temporary)
    (step : Step jobs faults s s') : Sane jobs faults first s' := by
  cases step with
  | call i toolchain here located => exact sane.goOn (.refl _) rfl (sources_of here).symm trivial
  | lose i e here lost => exact sane.goOn (.refl _) rfl (sources_of here).symm (fits_error e)
  | store i toolchain source after here stores apart =>
    exact sane.store absolute normal here stores apart
  | decline i toolchain answer after here stores same =>
    obtain ⟨setup, fits⟩ := fits_unstored stores
    exact sane.goOn setup same (sources_of here).symm fits
  | breakOff i toolchain answer after path file place data executable here stores given is_file
      found apart =>
    exact sane.breakOff here stores given is_file found apart
  | abandon i toolchain source breach here broken => exact sane.abandon here broken
  | launch i toolchain source run after here whole launches =>
    exact sane.launch here whole launches
  | miss i toolchain source e after here whole launches =>
    obtain ⟨rfl, plain⟩ := launchSource_error launches
    refine sane.goOn (.refl _) rfl (sources_of here).symm ⟨?_, nofun, nofun⟩
    rintro _ ⟨⟩
    exact ⟨plain, whole⟩
  | child after beside setup orderly spares taken free =>
    exact ⟨sane.setup.trans setup, sane.lodged.child orderly spares taken free, sane.fits⟩
  | finish i run ending here =>
    have words := sane.fit here
    exact sane.goOn (reportEnding_setup ..) (reportEnding_files ..).2 (sources_of here).symm words
  | clean i run ending here => exact sane.clean here
  | conclude i run ending here => exact sane.conclude here

theorem Run.sane (orderly : first.host.files.Orderly)
    (absolute : Path.isAbsolute first.host.temporary = true)
    (normal : Path.normalize first.host.temporary = first.host.temporary)
    (run : Run jobs faults first s) : Sane jobs faults first s := by
  induction run with
  | start => exact .start orderly
  | step _ step sane => exact sane.step absolute normal step

/-! ## Before -/

/-- What is read off a stage is read off the stage that has been come to, or off the one before. -/
theorem read_become {α : Type} (read : Stage → Option α) {stage : Stage} {x : α}
    (is : read ((s.become j stage after).stages i) = some x) :
    i = j ∧ read stage = some x ∨ read (s.stages i) = some x := by
  by_cases own : i = j
  · rw [own, become_self] at is
    exact Or.inl ⟨own, is⟩
  · rw [become_other own] at is
    exact Or.inr is

/-- A run keeps its toolchain, once it has been located. -/
theorem Step.keeps_toolchain (step : Step jobs faults s s') {toolchain : String}
    (is : (s'.stages i).toolchain? = some toolchain) :
    (s.stages i).toolchain? = some toolchain ∨
      s.service.locate (jobs i).settings = .ok toolchain := by
  cases step with
  | call j own here located =>
    rcases read_become Stage.toolchain? is with ⟨rfl, new⟩ | old
    · cases new
      exact Or.inr located
    · exact Or.inl old
  | lose | decline | abandon | miss =>
    rcases read_become Stage.toolchain? is with ⟨-, new⟩ | old
    · cases new
    · exact Or.inl old
  | breakOff j own answer after =>
    have is : ((s.become j (.answered none none answer) after).stages i).toolchain? = _ := is
    rcases read_become Stage.toolchain? is with ⟨-, new⟩ | old
    · cases new
    · exact Or.inl old
  | child => exact Or.inl is
  | store j own source after here | finish j run ending here | clean j run ending here
  | conclude j run ending here =>
    rcases read_become Stage.toolchain? is with ⟨rfl, new⟩ | old
    · rw [here]
      exact Or.inl new
    · exact Or.inl old
  | launch j own source run after here whole launches =>
    rcases read_become Stage.toolchain? is with ⟨rfl, new⟩ | old
    · obtain ⟨-, -, same, -⟩ := launchSource_ok launches
      rw [here]
      exact Or.inl ((congrArg some same).symm.trans new)
    · exact Or.inl old

/-- A run keeps its source, once its code has been stored, for as long as there is one. -/
theorem Step.keeps_source (step : Step jobs faults s s') (is : s'.sources i = some source) :
    s.sources i = some source ∨
      ∃ after, s.service.store (jobs i) (faults i) = (.ok (.waiting source), after) := by
  cases step with
  | call | lose | decline | abandon =>
    rcases read_become Stage.source? is with ⟨-, new⟩ | old
    · cases new
    · exact Or.inl old
  | breakOff j own answer after =>
    have is : ((s.become j (.answered none none answer) after).stages i).source? = _ := is
    rcases read_become Stage.source? is with ⟨-, new⟩ | old
    · cases new
    · exact Or.inl old
  | child => exact Or.inl is
  | store j own source' after here stores =>
    rcases read_become Stage.source? is with ⟨rfl, new⟩ | old
    · cases new
      exact Or.inr ⟨after, stores⟩
    · exact Or.inl old
  | launch j own source' run after here whole launches =>
    rcases read_become Stage.source? is with ⟨rfl, new⟩ | old
    · rw [sources_of here]
      exact Or.inl ((congrArg some (source_of_launch launches)).symm.trans new)
    · exact Or.inl old
  | clean j run ending here =>
    rcases read_become Stage.source? is with ⟨rfl, new⟩ | old
    · obtain ⟨-, rfl⟩ := Source.kept_eq_some.mp new
      rw [sources_of here]
      exact Or.inl rfl
    · exact Or.inl old
  | miss j own source' e after here | finish j run ending here | conclude j run ending here =>
    rcases read_become Stage.source? is with ⟨rfl, new⟩ | old
    · rw [sources_of here]
      exact Or.inl new
    · exact Or.inl old

/-- **Before**: the toolchain of a run has been located with its settings. -/
theorem Run.located (run : Run jobs faults first s) {toolchain : String}
    (is : (s.stages i).toolchain? = some toolchain) :
    ∃ earlier, Run jobs faults first earlier ∧
      earlier.service.locate (jobs i).settings = .ok toolchain := by
  induction run with
  | start => cases is
  | @step s s' run step ih =>
    rcases step.keeps_toolchain is with before | located
    · exact ih before
    · exact ⟨s, run, located⟩

/-- And its code has been stored in its source. -/
theorem Run.stored (run : Run jobs faults first s) (is : s.sources i = some source) :
    ∃ earlier after, Run jobs faults first earlier ∧
      earlier.service.store (jobs i) (faults i) = (.ok (.waiting source), after) := by
  induction run with
  | start => cases is
  | @step s s' run step ih =>
    rcases step.keeps_source is with before | ⟨after, stores⟩
    · exact ih before
    · exact ⟨s, after, run, stores⟩

/-- A source that is no scratch file is the file that the path of the job was for. -/
theorem Run.target (run : Run jobs faults first s) (is : s.sources i = some source)
    (plain : source.isScratch = false) : ∃ earlier path, Run jobs faults first earlier ∧
      ((jobs i).path.filter fun p => !p.isEmpty) = some path ∧
        earlier.service.host.files.absolute path = .ok source.file := by
  obtain ⟨earlier, after, before, stores⟩ := run.stored is
  have storing := store_stores earlier.service (jobs i) (faults i)
  rw [stores] at storing
  generalize faults i = fault at storing
  cases storing with
  | file given _ absolute _ => exact ⟨earlier, _, before, given, absolute⟩
  | scratch => cases plain

/-! ## Independence -/

theorem leadsTo_scratch : LeadsTo "/tmp/main_s1.go" (["tmp"] ++ ["main_s1.go"]) :=
  ⟨rfl, rfl, by decide⟩

end Flights

end GoWorkbench
