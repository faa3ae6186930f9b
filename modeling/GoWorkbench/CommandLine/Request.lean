/-
  What the command line can ask for.

  `goedit` has an option for the directory of the configuration, and seven commands with
  arguments of their own.
-/
import GoWorkbench.CommandLine.Arguments

namespace GoWorkbench.CommandLine

inductive Request
  /-- List the symbols below a root. -/
  | symbols (root : String)
  /-- Find the file that an import means. -/
  | resolve (base specifier : String) (root : Option String)
  /-- Show the toolchain in use. -/
  | locate (goroot : Option String)
  /-- Run a file, or code from elsewhere. -/
  | run (file codeFile : Option String) (settings : List String) (root : Option String)
  /-- Run a command line. -/
  | command (line : String) (settings : List String) (root : Option String)
  /-- Show the variables of the toolchain. -/
  | report (goroot : Option String)
  /-- Set the active workspace. -/
  | workspace (path : String)
deriving DecidableEq, Repr

/-- A request, with the directory of the configuration. -/
structure Invocation where
  configDirectory : String
  request : Request
deriving DecidableEq, Repr

/-- The name of the program. -/
def programName : String := "goedit"

/-- What the program itself takes. -/
def topForm : Form := ⟨programName, ["--config-dir"], [("command", .rest)]⟩

/-- What the commands take. -/
def commandForms : List (String × Form) :=
  let form := fun name options places =>
    (name, (⟨programName ++ " " ++ name, options, places⟩ : Form))
  [
    form "symbols" [] [("root", .atMostOne)],
    form "resolve" ["--root"] [("base", .one), ("specifier", .one)],
    form "locate" ["--goroot"] [],
    form "run" ["--code-file", "--env", "--root"] [("file", .atMostOne)],
    form "cmd" ["--env", "--root"] [("line", .one)],
    form "env" ["--goroot"] [],
    form "workspace" [] [("path", .one)]]

/-- The request of a command whose arguments have been read. -/
def requestOf (command : String) (p : Parsed) : Request :=
  let place := fun name => (p.place? name).getD ""
  match command with
  | "symbols" => .symbols ((p.place? "root").getD ".")
  | "resolve" => .resolve (place "base") (place "specifier") (p.option? "--root")
  | "locate" => .locate (p.option? "--goroot")
  | "run" =>
    .run (p.place? "file") (p.option? "--code-file") (p.optionValues "--env") (p.option? "--root")
  | "cmd" => .command (place "line") (p.optionValues "--env") (p.option? "--root")
  | "env" => .report (p.option? "--goroot")
  | _ => .workspace (place "path")

/-- What the arguments ask for. -/
def Invocation.parse (arguments : List String) : Except Stop Invocation := do
  let top ← CommandLine.parse topForm arguments
  match (top.places.lookup "command").getD [] with
  | [] => .error (.wrong programName (.missing ["command"]))
  | command :: rest => match commandForms.lookup command with
    | none =>
      .error (.wrong programName (.notChoice "command" command (commandForms.map (·.1))))
    | some form =>
      let parsed ← CommandLine.parse form rest
      match top.leftOver ++ parsed.leftOver with
      | [] => return ⟨(top.option? "--config-dir").getD ".", requestOf command parsed⟩
      | leftOver => .error (.wrong programName (.leftOver leftOver))

end GoWorkbench.CommandLine
