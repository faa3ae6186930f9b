/-
  What the program finds around it, as a description.

  The program does not reach for files, variables or children itself.  All of them are described
  in a JSON table, every key of which may be absent:

  * `files`: a table from paths to what is there, which is a text, or a table with the key
    `text` (and perhaps `executable`), `link` or `directory`;
  * `directory`: where relative paths start;
  * `variables`: a table of the variables of the process;
  * `system` and `machine`: the names of the operating system and of the processor;
  * `temporary`: where scratch files are made;
  * `input`: the text that can be read from outside;
  * `child`: how a child ends, a table with `status` and `output`, or with `broken`, the reason
    why it could not be launched.  Without it there is no program to launch.
-/
import GoWorkbench.CommandLine.Execution
import GoWorkbench.FileSystem.Layout

namespace GoWorkbench.CommandLine

open GoWorkbench.Text

structure Surroundings where
  host : Host
  /-- What can be read from outside. -/
  input : String
  /-- How a child ends. -/
  ending : Launch → Ending

/-! ## Parts of a description -/

/-- The entries of a table; other values have none. -/
def entriesOf : Value → List (String × Value)
  | .table entries => entries
  | _ => []

/-- The text of a key, or a text that is meant without it. -/
def textOf (entries : List (String × Value)) (key absent : String) : String :=
  match Value.get? key entries with
  | some (.text s) => s
  | _ => absent

/-- The entries of the table of a key. -/
def tableOf (entries : List (String × Value)) (key : String) : List (String × Value) :=
  ((Value.get? key entries).map entriesOf).getD []

/-- What is described to be at a path. -/
def seedOf : Value → FileSystem.Seed
  | .text s => .file (Utf8.bytes s) false
  | v =>
    let entries := entriesOf v
    let executable := match Value.get? "executable" entries with
      | some (.bool b) => b
      | _ => false
    if (Value.get? "directory" entries).isSome then .directory
    else match Value.get? "link" entries with
      | some (.text target) => .link target
      | _ => .file (Utf8.bytes (textOf entries "text" "")) executable

/-- The files described, put in place in their order; what has no place is left out. -/
def filesOf (entries : List (String × Value)) : FileSystem :=
  entries.foldl (fun fs (path, v) => (fs.plant path (seedOf v)).toOption.getD fs)
    (FileSystem.bare [])

/-- The variables described; of two for one name the later one holds. -/
def variablesOf (entries : List (String × Value)) : Settings :=
  entries.foldl (fun environment (name, v) => match v with
    | .text s => Host.setVariable name s environment
    | _ => environment) []

/-- How the child that is described ends. -/
def endingOf (child : Option Value) (launch : Launch) : Ending :=
  match child with
  | none => .broken (.system (PathError.mk .missing launch.program).message)
  | some v =>
    let entries := entriesOf v
    match Value.get? "broken" entries, Value.get? "status" entries with
    | some (.text why), _ => .broken (.system why)
    | _, some (.integer status) => .exited status (Utf8.bytes (textOf entries "output" ""))
    | _, _ => .exited 0 (Utf8.bytes (textOf entries "output" ""))

/-! ## The description -/

namespace Surroundings

/-- The surroundings that a table describes. -/
def ofTable (entries : List (String × Value)) : Surroundings :=
  let files := filesOf (tableOf entries "files")
  let directory := textOf entries "directory" "/"
  { host := {
      files := (files.enter directory).toOption.getD files
      environment := variablesOf (tableOf entries "variables")
      system := textOf entries "system" "linux"
      machine := textOf entries "machine" "x86_64"
      temporary := textOf entries "temporary" "/tmp" }
    input := textOf entries "input" ""
    ending := endingOf (Value.get? "child" entries) }

/-- The surroundings that a text describes, if it is a table. -/
def read (text : String) : Option Surroundings :=
  match Json.read Json.Limits.usual text.toList with
  | some (.table entries) => some (ofTable entries)
  | _ => none

/-- The whole course of the program, and the reports that are wanted, each on a line. -/
def run (s : Surroundings) (arguments : List String) : Ended × String :=
  let (config, progress) := start arguments s.input s.host
  let ending := match progress.launch? with
    | some (launch, _) => s.ending launch
    | none => .exited 0 []
  let ended := progress.finish ending
  let least := (config.map (·.logLevel)).getD .error
  let lines := (fromLevel least ended.host.log).map fun r =>
    s!"{r.level.name} {r.source}: {r.message}\n"
  (ended, String.join lines)

end Surroundings

end GoWorkbench.CommandLine
