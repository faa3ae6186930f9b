/-
  Requests to run something, and what comes of them.

  A request may set variables of the Go toolchain and no others.
-/
import GoWorkbench.Failure

namespace GoWorkbench

open GoWorkbench.Text
open Schema

/-- Variables with their values. -/
abbrev Settings := List (String × String)

/-- The variables that a request may set. -/
def toolchainVariables : List String := [
  "CGO_ENABLED", "GO111MODULE", "GOARCH", "GOFLAGS", "GOOS", "GOPATH", "GOPRIVATE", "GOPROXY",
  "GOROOT"]

/-- The variables set that may not be, in order. -/
def foreignVariables (settings : Settings) : List String :=
  ((settings.map (·.1)).filter (· ∉ toolchainVariables)).mergeSort fun a b => a ≤ b

/-- Settings of the toolchain only. -/
def checkSettings (settings : Settings) : Checked Settings :=
  match foreignVariables settings with
  | [] => .ok settings
  | foreign =>
    let row := String.intercalate ", "
    .complain (.refused (
      s!"Unsupported environment override(s): {row foreign}. " ++
      s!"Valid keys: {row toolchainVariables}"))

/-- Settings of the toolchain only, from a value. -/
def settings (v : Value) : Checked Settings :=
  match textTable v with
  | .ok s => checkSettings s
  | .error complaints => .error complaints

/-- Code to run.  With a path, the file there is overwritten and run. -/
structure RunJob where
  code : CodePoints
  path : Option String := none
  settings : Settings := []
deriving DecidableEq, Repr

namespace RunJob

/-- The name that complaints are about. -/
def name : String := "RunJob"

def check : Value → Checked RunJob :=
  model name fun entries =>
    (Checked.both (required entries "code" text)
      (Checked.both (field entries "path" none optionalText)
        (field entries "env" [] GoWorkbench.settings))).map
      fun (code, path, settings) => ⟨.ofString code, path, settings⟩

/-- A request made of its parts. -/
def make (code : CodePoints) (path : Option String) (settings : Settings) :
    Except Failure RunJob :=
  match Checked.within (.key "env") (checkSettings settings) with
  | .ok settings => .ok ⟨code, path, settings⟩
  | .error complaints => .error (.invalid name complaints)

end RunJob

/-- A command line to run. -/
structure CommandJob where
  command : String
  settings : Settings := []
deriving DecidableEq, Repr

namespace CommandJob

/-- The name that complaints are about. -/
def name : String := "CommandJob"

def check : Value → Checked CommandJob :=
  model name fun entries =>
    (Checked.both (required entries "command" text)
      (field entries "env" [] GoWorkbench.settings)).map
      fun (command, settings) => ⟨command, settings⟩

/-- A request made of its parts. -/
def make (command : String) (settings : Settings) : Except Failure CommandJob :=
  match Checked.within (.key "env") (checkSettings settings) with
  | .ok settings => .ok ⟨command, settings⟩
  | .error complaints => .error (.invalid name complaints)

end CommandJob

/-- What a program wrote, and what went wrong. -/
structure RunResult where
  output : String := ""
  error : Option String := none
deriving DecidableEq, Repr

namespace RunResult

/-- Nothing went wrong. -/
def succeeded (r : RunResult) : Bool := r.error.isNone

def check : Value → Checked RunResult :=
  model "RunResult" fun entries =>
    (Checked.both (field entries "output" "" text)
      (field entries "error" none optionalText)).map fun (output, error) => ⟨output, error⟩

end RunResult

/-- What the toolchain and its host are. -/
structure ToolchainReport where
  executable : String
  system : String
  machine : String
  /-- What the toolchain says of its variables. -/
  environment : String
  error : Option String := none
deriving DecidableEq, Repr

end GoWorkbench
