/-
  Editing a workspace while rebuilds of its index are under way.

  Any number of calls that save a file or run code are under way at once, beside the threads of the
  rebuilds that they schedule.  A call is made of steps: a save writes the file and then notes that
  it has been written, a run writes the file, has a child, cleans up and notes.  A thread takes its
  number, looks at one directory or one file at a time, and publishes what it has found.  Between
  any two of these steps the others may take theirs.

  1. **Calls** — `Call` is a call as far as it has come.
  2. **Steps** — `Step` is one step of a call, of a child, of a thread, or of the rest of the world.
     Files in the workspace are changed by the calls, and by children of runs of its own sources.
     `Usage` leaves open which calls are made, and where the working directory is meanwhile.
  3. **Runs** — `Run`: the states that steps lead to once the root has been activated.
  4. **On its own** — a rebuild beside which nothing else happens is done in the end, and the index
     then holds what there is to find (`Run.undisturbed`).
-/
import GoWorkbench.Proofs.Index.Overlap
import GoWorkbench.Proofs.Scan.Stepwise
import GoWorkbench.Proofs.Service.Writes

namespace GoWorkbench

open Entry FileSystem SymbolIndex

/-! ## Calls -/

/-- A call of the service, as far as it has come. -/
inductive Call
  | saving (path : String) (content : Text.CodePoints)
  /-- The file has been written, when relative paths started at `place`. -/
  | saved (path : String) (place : Place)
  | starting (job : RunJob) (fault : Option Breach)
  /-- The child has been launched. -/
  | running (run : Service.PendingRun)
  /-- The child of a run of a file has ended. -/
  | ran (file : String)
  | returned

/-- How a service is used. -/
structure Usage where
  /-- A save of this path may be noted, where relative paths started at the first place when the
      file was written and start at the second now. -/
  notes : String → Place → Place → Prop
  /-- Code may be run without a path. -/
  scratch : Prop
  /-- The writing of code to its path may be broken off. -/
  broken : Prop

/-- A run may be started so. -/
structure Usage.Allows (usage : Usage) (job : RunJob) (fault : Option Breach) : Prop where
  scratch : Service.needsScratch job → usage.scratch
  broken : ¬ Service.needsScratch job → fault ≠ none → usage.broken

/-- The call may be made. -/
def Call.New (usage : Usage) : Call → Prop
  | .saving _ _ => True
  | .starting job fault => usage.Allows job fault
  | _ => False

/-- A service with all calls of it, and all rebuilds that they have scheduled. -/
structure Editing where
  service : Service
  rebuilds : List (Rebuild Scan.Walk)
  calls : List Call

namespace Editing

/-- The index with its rebuilds. -/
def rebuilding (s : Editing) : Rebuilding Scan.Walk := ⟨s.service.index, s.rebuilds⟩

/-- The service with other files around it. -/
def withFiles (s : Service) (files : FileSystem) : Service :=
  { s with host := { s.host with files } }

/-! ## Steps -/

/-- The scan of a root, which begins at the directory that the root means. -/
def scanOf (root : String) : Scan.Walk := .start (Path.normalize (Path.plain root))

/-- The rebuild that is due has been called. -/
def scheduled (due : Option String) : List (Rebuild Scan.Walk) :=
  (due.map fun root => .called (scanOf root)).toList

/-- Scans that look at one thing at a time. -/
def walker (s : Service) : Scanner Scan.Walk where
  advances := Scan.Walk.Advances s.host s.index.options.skipped
  ends := Scan.Walk.Ends s.host s.index.options.skipped

/-- The same files are in the root, with the same bytes. -/
def Untouched (root : String) (fs fs' : FileSystem) : Prop :=
  ∀ names, fileAt (lead .root root ++ names) fs'.entries =
    fileAt (lead .root root ++ names) fs.entries

/-- The run is that of a source of the root. -/
def IsOwnRun (root : String) (run : Service.PendingRun) : Prop :=
  run.isScratch = false ∧
    Service.isOwn (lead .root root) run.file (lead .root run.file) = true

/-- One step. -/
inductive Step (root : String) (usage : Usage) : Editing → Editing → Prop
  | call (s : Editing) (c : Call) (new : c.New usage) :
      Step root usage s { s with calls := s.calls ++ [c] }
  | write (s : Editing) (i : Nat) (path : String) (content : Text.CodePoints) (after : Service)
      (here : s.calls[i]? = some (.saving path content))
      (writes : s.service.writeText path content = (.ok (), after)) :
      Step root usage s
        ⟨after, s.rebuilds, s.calls.set i (.saved path s.service.host.files.current)⟩
  | noteSaved (s : Editing) (i : Nat) (path : String) (place : Place) (due : Option String)
      (here : s.calls[i]? = some (.saved path place))
      (may : usage.notes path place s.service.host.files.current)
      (knows : s.service.rebuildDue path = .ok due) :
      Step root usage s ⟨s.service, s.rebuilds ++ scheduled due, s.calls.set i .returned⟩
  | prepare (s : Editing) (i : Nat) (job : RunJob) (fault : Option Breach)
      (refusal : Option Trouble) (run : Service.PendingRun) (after : Service)
      (here : s.calls[i]? = some (.starting job fault))
      (launches : s.service.prepareRun job fault refusal = (.ok (.waiting run), after)) :
      Step root usage s ⟨after, s.rebuilds, s.calls.set i (.running run)⟩
  /-- A run that cannot be launched returns at once. -/
  | answer (s : Editing) (i : Nat) (job : RunJob) (fault : Option Breach)
      (refusal : Option Trouble) (result : RunResult) (after : Service)
      (here : s.calls[i]? = some (.starting job fault))
      (answers : s.service.prepareRun job fault refusal = (.ok (.answered result), after)) :
      Step root usage s ⟨after, s.rebuilds, s.calls.set i .returned⟩
  /-- A child changes files. -/
  | child (s : Editing) (i : Nat) (run : Service.PendingRun) (files : FileSystem)
      (here : s.calls[i]? = some (.running run)) (sound : files.Sound)
      (may : IsOwnRun root run ∨ Untouched root s.service.host.files files) :
      Step root usage s { s with service := withFiles s.service files }
  | settle (s : Editing) (i : Nat) (run : Service.PendingRun) (ending : Ending)
      (refusal : Option Trouble) (outcome : List UInt8 × Option String)
      (here : s.calls[i]? = some (.running run)) (ended : ending.outcome = .ok outcome) :
      Step root usage s ⟨s.service.settleRun run ending refusal, s.rebuilds,
        s.calls.set i (if run.isScratch then .returned else .ran run.file)⟩
  | noteRan (s : Editing) (i : Nat) (file : String) (due : Option String)
      (here : s.calls[i]? = some (.ran file)) (knows : s.service.rebuildDue file = .ok due) :
      Step root usage s ⟨s.service, s.rebuilds ++ scheduled due, s.calls.set i .returned⟩
  /-- Somebody else changes files. -/
  | outside (s : Editing) (files : FileSystem) (sound : files.Sound)
      (may : Untouched root s.service.host.files files) :
      Step root usage s { s with service := withFiles s.service files }
  | thread (s : Editing) (e : Event) (after : Rebuilding Scan.Walk) (ne : e ≠ .called)
      (step : SymbolIndex.Step (walker s.service) s.rebuilding e after) :
      Step root usage s ⟨{ s.service with index := after.index }, after.rebuilds, s.calls⟩

/-- The states that steps lead to from a service whose root has just been activated, so that one
    rebuild of it has been called. -/
inductive Run (root : String) (usage : Usage) (first : Service) : Editing → Prop
  | start : Run root usage first ⟨first, [.called (scanOf root)], []⟩
  | step {s s' : Editing} :
      Run root usage first s → Step root usage s s' → Run root usage first s'

/-! ## Rebuilds on their own -/

variable {root : String} {usage : Usage} {first : Service} {s : Editing} {i n : Nat}
  {w after : Scan.Walk} {r r' : Rebuild Scan.Walk} {index index' : SymbolIndex}

/-- The `i`-th rebuild has come to `r`, and the index is another one. -/
def moved (s : Editing) (i : Nat) (r : Rebuild Scan.Walk) (index : SymbolIndex) : Editing :=
  ⟨{ s.service with index }, s.rebuilds.set i r, s.calls⟩

theorem moved_moved (s : Editing) (i : Nat) (r r' : Rebuild Scan.Walk)
    (index index' : SymbolIndex) :
    (s.moved i r index).moved i r' index' = s.moved i r' index' := by
  unfold moved
  dsimp only
  rw [List.set_set]

theorem Run.move {e : Event} (run : Run root usage first (s.moved i r index))
    (here : i < s.rebuilds.length)
    (does : Move (walker (s.moved i r index).service) index r e r' index') :
    Run root usage first (s.moved i r' index') := by
  have ne : e ≠ .called := by rintro rfl; cases does
  have there : (s.rebuilds.set i r)[i]? = some r := by
    rw [List.getElem?_set, if_pos rfl, if_pos here]
  rw [← moved_moved s i r r' index index']
  exact run.step (.thread _ e _ ne (.move (s.moved i r index).rebuilding i there does))

/-- A scan beside which nothing else happens gets on. -/
theorem Run.comes (run : Run root usage first (s.moved i (.scanning n w) index))
    (here : i < s.rebuilds.length)
    (comes : Scan.Comes s.service.host index.options.skipped w after) :
    Run root usage first (s.moved i (.scanning n after) index) := by
  induction comes with
  | refl => exact run
  | tail _ does ih => exact ih.move here (.advance n _ _ does)

/-- **On its own**: a rebuild beside which nothing else happens takes the highest number, and
    publishes what there is to find. -/
theorem Run.undisturbed {names : List String} {symbols : List Go.Symbol}
    (run : Run root usage first s) (here : s.rebuilds[i]? = some (.called w))
    (isOpen : w.Open s.service.index.options.skipped names) (sound : s.service.host.files.Sound)
    (behind : s.service.index.published ≤ s.service.index.started + 1)
    (found : w.symbols s.service.index.options.skipped names s.service.host.files = symbols) :
    Run root usage first
      (s.moved i (.ended (s.service.index.started + 1) ⟨w.top, [], symbols⟩ symbols true)
        { s.service.index with
          started := s.service.index.started + 1
          published := s.service.index.started + 1
          snapshot := symbols }) := by
  have hi := (List.getElem?_eq_some_iff.mp here).1
  have comes := isOpen.comes sound
  rw [found] at comes
  have took : Run root usage first
      (s.moved i (.scanning (s.service.index.started + 1) w) s.service.index.take.2) :=
    run.step (.thread s _ _ Event.noConfusion (.move s.rebuilding i here (.take w)))
  have scanned := (took.comes hi comes).move hi (.scan _ _ symbols ⟨rfl, rfl⟩)
  have published := scanned.move hi (.publish _ _ _)
  unfold SymbolIndex.publish SymbolIndex.take at published
  dsimp only at published
  rw [if_neg (by omega)] at published
  exact published

end Editing

end GoWorkbench
