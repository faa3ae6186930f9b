/-
  Child processes: what is launched, and how it ends.

  A launch names the words of the command, the directory it starts in, and all its variables.
  The child itself is outside; what is known of it is how it ended.
-/
import GoWorkbench.Job
import GoWorkbench.Toolchain

namespace GoWorkbench

open GoWorkbench.Text

structure Launch where
  words : List String
  /-- Where the child starts; without one, where the program itself is. -/
  directory : Option String
  /-- All its variables. -/
  environment : Settings
deriving DecidableEq, Repr

namespace Launch

/-- The program that is launched. -/
def program (l : Launch) : String := l.words.headD ""

/-- The report that a launch is about to happen. -/
def announcement (l : Launch) : String :=
  let directory := l.directory.getD "None"
  s!"Running {quotedList l.words} (cwd={directory})"

end Launch

inductive Ending
  /-- The child wrote something and ended; a negative status is the number of a signal. -/
  | exited (status : Int) (output : List UInt8)
  /-- There was no child, or it was lost. -/
  | broken (how : Interruption)
deriving DecidableEq, Repr

namespace Ending

/-- What a status other than zero means. -/
def statusText (status : Int) : String :=
  if status < 0 then s!"signal: {-status}" else s!"exit status {status}"

/-- What was written, and what went wrong.  A launch that the system or a value prevents is an
    answer like others; any other interruption is passed on. -/
def outcome : Ending → Except Failure (List UInt8 × Option String)
  | .exited status output =>
    .ok (output, if status = 0 then none else some (statusText status))
  | .broken (.other text) => .error (.interrupted (.other text))
  | .broken how => .ok ([], some how.text)

/-- What is reported about an ending, if anything. -/
def report (program : String) : Ending → Option (LogLevel × String)
  | .exited status _ =>
    if status = 0 then none else some (.info, s!"{program} exited with {status}")
  | .broken (.other _) => none
  | .broken how => some (.warning, s!"Failed to launch {program}: {how.text}")

end Ending

/-! ## Building launches -/

/-- The variables of a child: those of the process with the settings over them.  An empty
    setting changes nothing. -/
def childVariables (h : Host) (settings : Settings) : Settings :=
  settings.foldl (fun environment (name, value) =>
    if value.isEmpty then environment else Host.setVariable name value environment) h.environment

/-- The words of a command line.  A leading `go` is the toolchain; on platforms that need it,
    another bare command goes to the shell with its line as it is. -/
def commandWords (line toolchain : String) (platform : Platform) :
    Except Failure (List String) :=
  match words line with
  | [] => .error .blankCommand
  | name :: rest =>
    if name = Toolchain.program then .ok (toolchain :: rest)
    else if platform.wrapsBareCommands && '/' ∉ name.toList && '\\' ∉ name.toList then
      .ok (Platform.shellWords line)
    else .ok (name :: rest)

end GoWorkbench
