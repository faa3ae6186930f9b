/-
  The configuration, and the file it is read from.

  The file `editor.toml` may be absent; then everything has its default.  If it is there it must
  fit exactly: unknown keys are complaints, and so is every field with an unfit value.  All
  complaints are made at once, field by field, and after the fields of a table come the keys
  that it should not have.
-/
import GoWorkbench.Scan.Sources
import GoWorkbench.Text.Casing
import GoWorkbench.Toml.Reader

namespace GoWorkbench

open GoWorkbench.Text

/-- How the toolchain is found and run. -/
structure ToolchainConfig where
  /-- The root that is used where a request names none. -/
  root : Option String := none
  /-- How many processes may run at a time. -/
  maxConcurrentRuns : Option Nat := none
deriving DecidableEq, Repr

structure Config where
  /-- The file that remembers the last workspace. -/
  stateFile : String := "editor_config.json"
  /-- Where reports go instead of the error output. -/
  logFile : Option String := none
  logLevel : LogLevel := .info
  index : Scan.Options := {}
  toolchain : ToolchainConfig := {}
deriving DecidableEq, Repr

namespace Config

open Schema

/-! ## Checking -/

/-- The name of a level, in any case. -/
def checkLogLevel : Value → Checked LogLevel
  | .text s => choice LogLevel.named (upper s)
  | _ => .complain (.notChoice (LogLevel.named.map (·.1)))

/-- The name of a directory, without anything that leads to it. -/
def isBareName (name : String) : Bool :=
  !name.isEmpty && '/' ∉ name.toList && '\\' ∉ name.toList

/-- Names of directories; the first one that is none is refused. -/
def checkSkipped (v : Value) : Checked (List String) :=
  match texts v with
  | .error complaints => .error complaints
  | .ok names => match names.find? fun n => !isBareName n with
    | none => .ok names
    | some name => .complain (.refused
        s!"skip_dirs entries must be bare directory names, got '{name}'")

def checkIndex : Value → Checked Scan.Options :=
  model "IndexConfig" fun entries =>
    let fields := Checked.both
      (field entries "skip_dirs" ({} : Scan.Options).skipped checkSkipped)
      (field entries "respect_gitignore" false bool)
    (Checked.both fields (noOthers entries ["skip_dirs", "respect_gitignore"])).map
      fun ((skipped, respectIgnore), _) => { skipped, respectIgnore }

def checkToolchain : Value → Checked ToolchainConfig :=
  model "ToolchainConfig" fun entries =>
    let fields := Checked.both
      (field entries "root" none optionalText)
      (field entries "max_concurrent_runs" none (optionalAtLeast 1))
    (Checked.both fields (noOthers entries ["root", "max_concurrent_runs"])).map
      fun ((root, most), _) => ⟨root, most.map Int.toNat⟩

/-- The configuration that a value stands for. -/
def check : Value → Checked Config :=
  model "EditorConfig" fun entries =>
    let simple := Checked.both
      (field entries "state_file" ({} : Config).stateFile text)
      (Checked.both (field entries "log_file" none optionalText)
        (field entries "log_level" .info checkLogLevel))
    let nested := Checked.both
      (field entries "index" {} checkIndex)
      (field entries "toolchain" {} checkToolchain)
    let known := ["state_file", "log_file", "log_level", "index", "toolchain"]
    (Checked.both (Checked.both simple nested) (noOthers entries known)).map
      fun (((stateFile, logFile, logLevel), index, toolchain), _) =>
        { stateFile, logFile, logLevel, index, toolchain }

/-! ## Loading -/

/-- The path of the file in a directory. -/
def file (directory : String) : String := Path.plain (Path.join directory "editor.toml")

/-- The configuration that the bytes of a file stand for. -/
def ofBytes (path : String) (data : List UInt8) : Except Failure Config :=
  match Utf8.decode data with
  | .error fault => .error (.undecodable fault)
  | .ok text => match Toml.read text with
    | .error .malformed => .error (.config (.malformed path))
    | .error (.longInteger digits) => .error (.longInteger digits)
    | .ok entries => match check (.table entries) with
      | .ok config => .ok config
      | .error complaints => .error (.config (.invalid path "EditorConfig" complaints))

/-- The configuration of a directory. -/
def load (h : Host) (directory : String) : Except Failure Config := do
  let path := file directory
  let isFile ← h.probe path Entry.isFile
  if !isFile then return {}
  ofBytes path (← h.read path)

/-- Where the last workspace is remembered; a relative path lies in the directory of the
    configuration. -/
def statePath (h : Host) (directory : String) (config : Config) : Except Failure String :=
  (h.expandHome config.stateFile).map fun file =>
    if Path.isAbsolute file then file else Path.plain (Path.join directory file)

end Config

end GoWorkbench
