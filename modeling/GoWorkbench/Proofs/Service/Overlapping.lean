/-
  Runs that overlap.

  Any number of runs are under way at once, each as far as it has come.  A run locates its
  toolchain, stores its code, launches a child, reports how the child ended, cleans up, and answers;
  and between any two of these steps the others may take theirs, and children may change files.

  1. **Stages** — how far a run has come, and the file that it has code in.
  2. **Steps** — `Step` is one step of a run, or of a child.  Code is stored apart from the code of
     other runs, be it a beginning of it, and no child changes a file that has code of a run in it.
  3. **Runs** — `Run`: the states that steps lead to from a service where no run has been called.
  4. **Alone** — steps that a run takes with no other one between them make the run as a whole
     (`Run.alone`).
-/
import Mathlib.Logic.Function.Basic
import GoWorkbench.Proofs.FileSystem.Keeping
import GoWorkbench.Proofs.Service.Phases

namespace GoWorkbench

open Entry FileSystem Service

/-! ## Stages -/

namespace Service

/-- The file that a child has been launched for. -/
def PendingRun.source (run : PendingRun) : Source := ⟨run.file, run.isScratch⟩

/-- What there still is of a source after cleaning up: a scratch file goes. -/
def Source.kept (source : Source) : Option Source := if source.isScratch then none else some source

theorem Source.kept_eq_some {source kept : Source} :
    source.kept = some kept ↔ source.isScratch = false ∧ kept = source := by
  unfold Source.kept
  split
  · rename_i scratch
    rw [scratch]
    exact ⟨nofun, nofun⟩
  · rename_i plain
    exact ⟨fun is => ⟨Bool.eq_false_iff.mpr plain, (Option.some.inj is).symm⟩,
      fun is => congrArg some is.2.symm⟩

end Service

/-- A run, as far as it has come. -/
inductive Stage
  | idle
  /-- The toolchain has been located. -/
  | called (toolchain : String)
  | stored (toolchain : String) (source : Source)
  | running (run : PendingRun)
  /-- The child has ended, and that has been reported. -/
  | ended (run : PendingRun) (ending : Ending)
  /-- What is not needed any more has been taken away. -/
  | cleaned (run : PendingRun) (ending : Ending)
  /-- There is an answer.  If there was a child, its toolchain is known, and how it ended. -/
  | answered (source : Option Source) (child : Option (String × Ending))
      (answer : Except Failure RunResult)

namespace Stage

/-- The file that has code of the run in it. -/
def source? : Stage → Option Source
  | idle | called _ => none
  | stored _ source => some source
  | running run | ended run _ => some run.source
  | cleaned run _ => run.source.kept
  | answered source _ _ => source

/-- The toolchain of the run. -/
def toolchain? : Stage → Option String
  | idle => none
  | called toolchain | stored toolchain _ => some toolchain
  | running run | ended run _ | cleaned run _ => some run.toolchain
  | answered _ child _ => child.map (·.1)

/-- A child has been launched. -/
inductive Launched : Stage → Prop
  | running (run : PendingRun) : Launched (running run)
  | ended (run : PendingRun) (ending : Ending) : Launched (ended run ending)
  | cleaned (run : PendingRun) (ending : Ending) : Launched (cleaned run ending)
  | answered (source : Option Source) (child : String × Ending)
      (answer : Except Failure RunResult) : Launched (answered source (some child) answer)

end Stage

/-- A service with all runs of it. -/
structure Flights (ι : Type) where
  service : Service
  stages : ι → Stage
  /-- What is at each place apart from the code of runs. -/
  beside : List String → Option Entry

namespace Flights

variable {ι : Type} [DecidableEq ι]

/-- A run has come to a stage, and the service to a state. -/
def become (s : Flights ι) (i : ι) (stage : Stage) (after : Service) : Flights ι :=
  { s with service := after, stages := Function.update s.stages i stage }

@[simp] theorem become_service (s : Flights ι) (i : ι) (stage : Stage) (after : Service) :
    (s.become i stage after).service = after := rfl

@[simp] theorem become_self (s : Flights ι) (i : ι) (stage : Stage) (after : Service) :
    (s.become i stage after).stages i = stage := Function.update_self ..

theorem become_other {i j : ι} (other : j ≠ i) (s : Flights ι) (stage : Stage) (after : Service) :
    (s.become i stage after).stages j = s.stages j := Function.update_of_ne other ..

/-- What has been left at a place is not the code of a run. -/
def leave (s : Flights ι) (place : List String) (entry : Entry) : Flights ι :=
  { s with beside := Function.update s.beside place (some entry) }

/-- The files that have code of runs in them. -/
def sources (s : Flights ι) (i : ι) : Option Source := (s.stages i).source?

theorem sources_become (s : Flights ι) (i : ι) (stage : Stage) (after : Service) :
    (s.become i stage after).sources = Function.update s.sources i stage.source? := by
  funext j
  unfold sources
  by_cases same : j = i
  · rw [same, become_self, Function.update_self]
  · rw [become_other same, Function.update_of_ne same]

/-- One of the files is at the place. -/
def Taken (sources : ι → Option Source) (fs : FileSystem) (place : List String) : Prop :=
  ∃ i source entry, sources i = some source ∧ fs.find source.file = .ok (⟨place, 0⟩, entry)

/-! ## Steps -/

/-- One step of a run, or of a child. -/
inductive Step (jobs : ι → RunJob) (faults : ι → Option Breach) :
    Flights ι → Flights ι → Prop
  | call (s : Flights ι) (i : ι) (toolchain : String) (here : s.stages i = .idle)
      (located : s.service.locate (jobs i).settings = .ok toolchain) :
      Step jobs faults s (s.become i (.called toolchain) s.service)
  | lose (s : Flights ι) (i : ι) (e : Failure) (here : s.stages i = .idle)
      (lost : s.service.locate (jobs i).settings = .error e) :
      Step jobs faults s (s.become i (.answered none none (.error e)) s.service)
  /-- The code is stored, and if it is in the file of a path, no other code is in there. -/
  | store (s : Flights ι) (i : ι) (toolchain : String) (source : Source) (after : Service)
      (here : s.stages i = .called toolchain)
      (stores : s.service.store (jobs i) (faults i) = (.ok (.waiting source), after))
      (apart : source.isScratch = false → ∀ j other, j ≠ i → s.sources j = some other →
        Apart after.host.files source.file other.file) :
      Step jobs faults s (s.become i (.stored toolchain source) after)
  /-- The code is not stored, and no file is changed. -/
  | decline (s : Flights ι) (i : ι) (toolchain : String) (answer : Except Failure RunResult)
      (after : Service) (here : s.stages i = .called toolchain)
      (stores : s.service.store (jobs i) (faults i) = (answer.map .answered, after))
      (same : after.host.files = s.service.host.files) :
      Step jobs faults s (s.become i (.answered none none answer) after)
  /-- The writing of a file is broken off, where no code of other runs is.  What has been written
      stays. -/
  | breakOff (s : Flights ι) (i : ι) (toolchain : String) (answer : Except Failure RunResult)
      (after : Service) (path file : String) (place : List String) (data : List UInt8)
      (executable : Bool) (here : s.stages i = .called toolchain)
      (stores : s.service.store (jobs i) (faults i) = (answer.map .answered, after))
      (given : ((jobs i).path.filter fun p => !p.isEmpty) = some path)
      (absolute : s.service.host.files.absolute path = .ok file)
      (found : after.host.files.find file = .ok (⟨place, 0⟩, .file data executable))
      (apart : ∀ j other, j ≠ i → s.sources j = some other →
        Apart after.host.files file other.file) :
      Step jobs faults s
        ((s.become i (.answered none none answer) after).leave place (.file data executable))
  | abandon (s : Flights ι) (i : ι) (toolchain : String) (source : Source) (breach : Breach)
      (here : s.stages i = .stored toolchain source) (broken : faults i = some breach) :
      Step jobs faults s
        (s.become i (.answered none none (s.service.abandon source.file none breach.how).1)
          (s.service.abandon source.file none breach.how).2)
  | launch (s : Flights ι) (i : ι) (toolchain : String) (source : Source) (run : PendingRun)
      (after : Service) (here : s.stages i = .stored toolchain source) (whole : faults i = none)
      (launches : s.service.launchSource toolchain source
        (s.service.withRoot (jobs i).settings) = (.ok run, after)) :
      Step jobs faults s (s.become i (.running run) after)
  | miss (s : Flights ι) (i : ι) (toolchain : String) (source : Source) (e : Failure)
      (after : Service) (here : s.stages i = .stored toolchain source) (whole : faults i = none)
      (launches : s.service.launchSource toolchain source
        (s.service.withRoot (jobs i).settings) = (.error e, after)) :
      Step jobs faults s (s.become i (.answered (some source) none (.error e)) after)
  /-- A child changes anything, but no file with code in it. -/
  | child (s : Flights ι) (after : Service) (beside : List String → Option Entry)
      (setup : SameSetup s.service after) (orderly : after.host.files.Orderly)
      (spares : ∀ i source, s.sources i = some source → ∀ purpose,
        after.host.files.reach purpose source.file =
          s.service.host.files.reach purpose source.file)
      (taken : ∀ place, Taken s.sources s.service.host.files place →
        beside place = s.beside place)
      (free : ∀ place, ¬ Taken s.sources s.service.host.files place →
        beside place = leafAt place after.host.files.entries) :
      Step jobs faults s ⟨after, s.stages, beside⟩
  | finish (s : Flights ι) (i : ι) (run : PendingRun) (ending : Ending)
      (here : s.stages i = .running run) :
      Step jobs faults s (s.become i (.ended run ending)
        (s.service.reportEnding run.launch.program ending))
  | clean (s : Flights ι) (i : ι) (run : PendingRun) (ending : Ending)
      (here : s.stages i = .ended run ending) :
      Step jobs faults s (s.become i (.cleaned run ending) (s.service.clean run none))
  | conclude (s : Flights ι) (i : ι) (run : PendingRun) (ending : Ending)
      (here : s.stages i = .cleaned run ending) :
      Step jobs faults s (s.become i
        (.answered run.source.kept (some (run.toolchain, ending)) (s.service.conclude run ending).1)
        (s.service.conclude run ending).2)

/-! ## Runs -/

/-- No run has been called. -/
def start (first : Service) : Flights ι where
  service := first
  stages := fun _ => .idle
  beside := fun place => leafAt place first.host.files.entries

/-- The states that steps lead to. -/
inductive Run (jobs : ι → RunJob) (faults : ι → Option Breach) (first : Service) :
    Flights ι → Prop
  | start : Run jobs faults first (start first)
  | step {s s' : Flights ι} (run : Run jobs faults first s) (step : Step jobs faults s s') :
      Run jobs faults first s'

/-! ## Alone -/

variable {jobs : ι → RunJob} {faults : ι → Option Breach} {first : Service} {s : Flights ι}

/-- The run has come to an answer. -/
def Answers (s : Flights ι) (i : ι) (answer : Answer RunResult) : Prop :=
  s.service = answer.2 ∧ ∃ source child, s.stages i = .answered source child answer.1

/-- After the child comes what comes after it. -/
theorem Run.finish (run : Run jobs faults first s) {i : ι} {launched : PendingRun}
    (here : s.stages i = .running launched) (ending : Ending) :
    ∃ s', Run jobs faults first s' ∧ s'.Answers i (s.service.finishRun launched ending) := by
  have run := run.step (.finish s i launched ending here)
  have run := run.step (.clean _ i launched ending (become_self ..))
  have run := run.step (.conclude _ i launched ending (become_self ..))
  rw [finishRun_eq]
  exact ⟨_, run, rfl, _, _, become_self ..⟩

/-- After storing comes the launch, or the end. -/
theorem Run.launch (run : Run jobs faults first s) {i : ι} {toolchain : String} {source : Source}
    (here : s.stages i = .stored toolchain source) (ending : Ending) :
    ∃ s', Run jobs faults first s' ∧ s'.Answers i (match faults i with
      | some breach => s.service.abandon source.file none breach.how
      | none => match s.service.launchSource toolchain source
          (s.service.withRoot (jobs i).settings) with
        | (.error e, after) => (.error e, after)
        | (.ok launched, after) => after.finishRun launched ending) := by
  cases broken : faults i with
  | some breach =>
    have run := run.step (.abandon s i toolchain source breach here broken)
    exact ⟨_, run, rfl, _, _, become_self ..⟩
  | none =>
    rcases launches : s.service.launchSource toolchain source
      (s.service.withRoot (jobs i).settings) with ⟨e | launched, after⟩
    · have run := run.step (.miss s i toolchain source e after here broken launches)
      exact ⟨_, run, rfl, _, _, become_self ..⟩
    · have run := run.step (.launch s i toolchain source launched after here broken launches)
      exact run.finish (become_self ..) ending

/-- A run whose code cannot be stored comes to an answer, where there is no code of other runs. -/
theorem Run.unstored (run : Run jobs faults first s) (orderly : s.service.host.files.Orderly) {i : ι}
    {toolchain : String} {after : Service} (answer : Except Failure RunResult)
    (here : s.stages i = .called toolchain)
    (nobody : ∀ j other, j ≠ i → s.sources j ≠ some other)
    (stores : s.service.store (jobs i) (faults i) = (answer.map .answered, after)) :
    ∃ s', Run jobs faults first s' ∧ s'.Answers i (answer, after) := by
  have storing := store_stores s.service (jobs i) (faults i)
  rw [stores] at storing
  rcases storing.begun orderly with same | ⟨path, file, data, given, absolute, begun⟩
  · exact ⟨_, run.step (.decline s i toolchain answer after here stores same), rfl, _, _,
      become_self ..⟩
  · obtain ⟨place, executable, found, -⟩ := begun.found
    exact ⟨_, run.step (.breakOff s i toolchain answer after path file place data executable here
      stores given absolute found fun j other ne has => absurd has (nobody j other ne)), rfl, _, _,
      s.become_self i _ after⟩

/-- **Alone**: a run that is called where there is no code of other runs, and whose child changes
    nothing, can take its steps in a row, and then it answers as a whole run does, and leaves what
    that leaves. -/
theorem Run.alone (run : Run jobs faults first s) (orderly : s.service.host.files.Orderly) {i : ι}
    (idle : s.stages i = .idle) (lone : ∀ j, s.sources j = none) (ending : Ending) :
    ∃ s', Run jobs faults first s' ∧ s'.Answers i
      (s.service.run (jobs i) (faults i) fun _ launched => (ending, launched)) := by
  unfold Service.run
  rw [prepareRun_eq]
  cases located : s.service.locate (jobs i).settings with
  | error e => exact ⟨_, run.step (.lose s i e idle located), rfl, _, _, become_self ..⟩
  | ok toolchain =>
    have run := run.step (.call s i toolchain idle located)
    -- No other run has a file that this one's could be.
    have nobody : ∀ j other, j ≠ i →
        (s.become i (.called toolchain) s.service).sources j ≠ some other := by
      intro j other ne has
      rw [sources_become, Function.update_of_ne ne, lone j] at has
      cases has
    dsimp only
    rcases stores : s.service.store (jobs i) (faults i) with ⟨e | result | source, after⟩
    · exact run.unstored orderly (.error e) (become_self ..) nobody stores
    · exact run.unstored orderly (.ok result) (become_self ..) nobody stores
    · have run := run.step (.store _ i toolchain source after (become_self ..) stores
        fun _ j other ne has => absurd has (nobody j other ne))
      have setup : SameSetup s.service after := by
        have kept := store_setup s.service (jobs i) (faults i)
        rw [stores] at kept
        exact kept
      obtain ⟨s', run, answers⟩ := run.launch (become_self ..) ending
      refine ⟨s', run, ?_⟩
      rw [become_service, setup.withRoot] at answers
      dsimp only
      cases broken : faults i with
      | some breach =>
        rw [broken] at answers
        obtain ⟨how, written⟩ := breach
        cases how <;> exact answers
      | none =>
        rw [broken] at answers
        dsimp only at answers ⊢
        rcases launches : after.launchSource toolchain source
          (s.service.withRoot (jobs i).settings) with ⟨e | launched, launched'⟩ <;>
        · rw [launches] at answers
          exact answers

end Flights

end GoWorkbench
