/-
  Running code and commands.

  Everything that runs has two phases, before the child and after it, and between them anything
  may happen to the state.  The first phase ends with an answer, if the request cannot be
  launched, or with a launch to be made; the second takes how the child ended.

  1. Code with a path is written to the file there, which then is run; other code goes to a
     scratch file.  Text that cannot be encoded touches no file, but a writing that is broken off
     has emptied the file.
  2. After the child has ended, a scratch file is removed, whatever happened, if the system lets
     it; a file with a path is noted as written.
-/
import GoWorkbench.Service.Basic

namespace GoWorkbench

open GoWorkbench.Text

namespace Service

/-- The name that runs report under. -/
def runSource : String := "execute.runner"

/-! ## Launching -/

/-- Reports a launch that is about to be made. -/
def announce (s : Service) (l : Launch) : Service :=
  { s with host := s.host.report .info runSource l.announcement }

/-- Reports how a child ended. -/
def reportEnding (s : Service) (program : String) (ending : Ending) : Service :=
  match ending.report program with
  | some (level, message) => { s with host := s.host.report level runSource message }
  | none => s

/-- What a first phase ends with. -/
inductive Phase (α β : Type)
  | answered (a : α)
  | waiting (b : β)

/-! ## Scratch files -/

/-- How many names are tried for a scratch file. -/
def maxScratchNames : Nat := 10000

/-- The `n`-th name of a scratch file. -/
def scratchName (n : Nat) : String := s!"main_s{n}.go"

/-- The path of the `n`-th scratch file.  Irreducible, so that going through the tries does not
    compute texts. -/
@[irreducible] def scratchPath (temporary : String) (n : Nat) : String :=
  Path.join temporary (scratchName n)

/-- Makes a new file with the next name that is free; an error is already in words. -/
def makeScratch (h : Host) (data : List UInt8) : Nat → Except String String × Host
  | 0 => (.error "[Errno 17] No usable temporary file name found", h)
  | tries + 1 =>
    let n := h.scratchNames + 1
    let h := { h with scratchNames := n }
    let path := scratchPath h.temporary n
    match h.files.createNew path data with
    | .ok files => (.ok (Path.normalize path), { h with files })
    | .error .exists => makeScratch h data tries
    | .error t => (.error (PathError.mk t path).message, h)

/-- Removes a scratch file; that it is gone already does not matter.  `refusal` is why the system
    lets nothing be taken out of its directory, if it does not. -/
def removeScratch (s : Service) (path : String) (refusal : Option Trouble := none) : Service :=
  match s.host.files.remove path refusal with
  | .ok files => { s with host := { s.host with files } }
  | .error .missing => s
  | .error t =>
    let message := s!"Could not remove scratch file {path}: {(PathError.mk t path).message}"
    { s with host := s.host.report .warning runSource message }

/-! ## Running code -/

/-- A run whose child has been launched. -/
structure PendingRun where
  toolchain : String
  /-- The file that is run. -/
  file : String
  /-- The file is a scratch file. -/
  isScratch : Bool
  launch : Launch

/-- The directory that a file is run in: the workspace if the file is in it, else its own. -/
def runDirectory (s : Service) (file : String) : Except Failure String :=
  match s.workspace with
  | none => .ok (Path.directory file)
  | some root => (s.host.isWithin file root).map fun inside =>
    if inside then root else Path.directory file

/-- The launch of a file. -/
def runLaunch (s : Service) (toolchain file directory : String) (settings : Settings) : Launch :=
  ⟨[toolchain, "run", file], some directory, childVariables s.host settings⟩

/-- Writes code to the file of its path and gets ready to run it.  `fault` is what breaks off the
    writing, if anything does; then a part of the code is left in the file. -/
def prepareFile (s : Service) (toolchain path : String) (settings : Settings)
    (data : List UInt8) (fault : Option Breach) : Answer (Phase RunResult PendingRun) :=
  match s.host.absolute path with
  | .error e => (.error e, s)
  | .ok file =>
    let (written, host) := s.host.write file data fault
    let s := { s with host }
    match written with
    | .error e =>
      if e.bySystem then
        let text := e.message.getD ""
        (.ok (.answered { error := some s!"Failed to save file before running: {text}" }), s)
      else (.error e, s)
    | .ok () => match s.runDirectory file with
      | .error e => (.error e, s)
      | .ok directory =>
        let launch := s.runLaunch toolchain file directory settings
        (.ok (.waiting ⟨toolchain, file, false, launch⟩), s.announce launch)

/-- Writes code to a scratch file and gets ready to run it.  `fault` is what breaks off the
    writing, if anything does; then the file is removed, unless there is a `refusal`. -/
def prepareScratch (s : Service) (toolchain : String) (settings : Settings) (data : List UInt8)
    (fault : Option Breach) (refusal : Option Trouble := none) :
    Answer (Phase RunResult PendingRun) :=
  let failed := fun text : String =>
    Phase.answered { error := some s!"Failed to create temp file: {text}" : RunResult }
  let (made, host) := makeScratch s.host (Breach.kept fault data) maxScratchNames
  let s := { s with host }
  match made, fault with
  | .error text, _ => (.ok (failed text), s)
  | .ok file, some ⟨.system text, _⟩ => (.ok (failed text), s.removeScratch file refusal)
  | .ok file, some ⟨how, _⟩ => (.error (.interrupted how), s.removeScratch file refusal)
  | .ok file, none =>
    let launch := s.runLaunch toolchain file (Path.directory file) settings
    (.ok (.waiting ⟨toolchain, file, true, launch⟩), s.announce launch)

/-- The first phase of running code. -/
def prepareRun (s : Service) (job : RunJob) (fault : Option Breach)
    (refusal : Option Trouble := none) : Answer (Phase RunResult PendingRun) :=
  let settings := s.withRoot job.settings
  let path := job.path.filter fun p => !p.isEmpty
  match s.locate job.settings with
  | .error e => (.error e, s)
  | .ok toolchain => match job.code.encode, path with
    | .error u, some _ =>
      (.ok (.answered { error := some s!"Failed to save file before running: {u.message}" }), s)
    | .error u, none =>
      (.ok (.answered { error := some s!"Failed to create temp file: {u.message}" }), s)
    | .ok data, some path => s.prepareFile toolchain path settings data fault
    | .ok data, none => s.prepareScratch toolchain settings data fault refusal

/-- What is added to an error where the child wrote nothing. -/
def launchHint (toolchain : String) : String :=
  s!"\n(Failed to execute '{toolchain}'. Check if Go is installed or GOROOT is configured " ++
    "correctly)"

/-- The child of a run has ended, so a scratch file is not needed any more. -/
def settleRun (s : Service) (run : PendingRun) (ending : Ending)
    (refusal : Option Trouble := none) : Service :=
  let s := s.reportEnding run.launch.program ending
  if run.isScratch then s.removeScratch run.file refusal else s

/-- The second phase of running code. -/
def finishRun (s : Service) (run : PendingRun) (ending : Ending)
    (refusal : Option Trouble := none) : Answer RunResult :=
  let s := s.settleRun run ending refusal
  match ending.outcome with
  | .error e => (.error e, s)
  | .ok (raw, error) =>
    let (noted, s) := if run.isScratch then (.ok false, s) else s.noteWritten run.file
    match noted with
    | .error e => (.error e, s)
    | .ok _ =>
      let error := error.map fun e => if raw.isEmpty then e ++ launchHint run.toolchain else e
      (.ok ⟨s.platform.readOutput raw, error⟩, s)

/-- Runs code with a child that may change the state.  `fault` is what breaks off the writing of the
    code, and `refusal` why a scratch file cannot be removed, if anything does and it cannot. -/
def run (s : Service) (job : RunJob) (fault : Option Breach)
    (child : Launch → Service → Ending × Service) (refusal : Option Trouble := none) :
    Answer RunResult :=
  match s.prepareRun job fault refusal with
  | (.error e, s) => (.error e, s)
  | (.ok (.answered r), s) => (.ok r, s)
  | (.ok (.waiting run), s) =>
    let (ending, s) := child run.launch s
    s.finishRun run ending refusal

/-! ## Running commands -/

/-- The first phase of running a command line. -/
def prepareCommand (s : Service) (job : CommandJob) : Answer (Phase RunResult Launch) :=
  if (words job.command).isEmpty then
    (.ok (.answered { error := some "no command given" }), s)
  else
    let launch : Except Failure Launch := do
      let toolchain ← s.locate job.settings
      let line ← commandWords job.command toolchain s.platform
      let directory ← match s.workspace, s.host.files.workingDirectory with
        | some root, _ => pure root
        | none, .ok here => pure here
        | none, .error t => .error (.adrift t)
      return ⟨line, some directory, childVariables s.host (s.withRoot job.settings)⟩
    match launch with
    | .error e => (.error e, s)
    | .ok launch => (.ok (.waiting launch), s.announce launch)

/-- The second phase of running a command line. -/
def finishCommand (s : Service) (launch : Launch) (ending : Ending) : Answer RunResult :=
  let s := s.reportEnding launch.program ending
  match ending.outcome with
  | .error e => (.error e, s)
  | .ok (raw, error) => (.ok ⟨s.platform.readOutput raw, error⟩, s)

/-- Runs a command line with a child that may change the state. -/
def runCommand (s : Service) (job : CommandJob) (child : Launch → Service → Ending × Service) :
    Answer RunResult :=
  match s.prepareCommand job with
  | (.error e, s) => (.error e, s)
  | (.ok (.answered r), s) => (.ok r, s)
  | (.ok (.waiting launch), s) =>
    let (ending, s) := child launch s
    s.finishCommand launch ending

/-! ## Asking the toolchain -/

/-- The settings of a request that may name a root. -/
def rootSettings (root : Option String) : Settings :=
  ((root.filter fun r => !r.isEmpty).map fun r => (Toolchain.rootVariable, r)).toList

/-- The first phase of asking the toolchain for its variables. -/
def prepareReport (s : Service) (root : Option String) : Answer Launch :=
  let settings := rootSettings root
  match s.locate settings with
  | .error e => (.error e, s)
  | .ok toolchain =>
    let launch := ⟨[toolchain, "env"], none, childVariables s.host (s.withRoot settings)⟩
    (.ok launch, s.announce launch)

/-- The second phase of asking the toolchain for its variables. -/
def finishReport (s : Service) (launch : Launch) (ending : Ending) : Answer ToolchainReport :=
  let s := s.reportEnding launch.program ending
  match ending.outcome with
  | .error e => (.error e, s)
  | .ok (raw, error) =>
    let output := s.platform.readOutput raw
    let environment := match error with
      | none => output
      | some e => s!"Error running '{launch.program} env': {e}\nOutput: {output}"
    (.ok {
      executable := launch.program
      system := goSystem s.host.system
      machine := goMachine s.host.machine
      environment, error }, s)

/-- Asks the toolchain for its variables, with a child that may change the state. -/
def report (s : Service) (root : Option String) (child : Launch → Service → Ending × Service) :
    Answer ToolchainReport :=
  match s.prepareReport root with
  | (.error e, s) => (.error e, s)
  | (.ok launch, s) =>
    let (ending, s) := child launch s
    s.finishReport launch ending

end Service

end GoWorkbench
