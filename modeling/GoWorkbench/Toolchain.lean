/-
  Where the Go toolchain is.

  A root that is asked for is taken at its word.  Otherwise the first file wins among
  `go/bin/go` in a directory, then `go/bin/go` and `bin/go` in each of its subdirectories by
  name; then comes the search path of the process, or that of the system if it has none, and at
  last the bare name, which leaves the search to whoever runs it.
-/
import GoWorkbench.Host
import GoWorkbench.Platform

namespace GoWorkbench.Toolchain

open GoWorkbench.Text

/-- The name of the program. -/
def program : String := "go"

/-- The variable that names the root of a toolchain. -/
def rootVariable : String := "GOROOT"

/-- The program in a directory that has it under the given names. -/
def under (directory : String) (names : List String) : String := names.foldl Path.join directory

/-- The program of a toolchain with this root. -/
def ofRoot (root : String) : String := under root ["bin", program]

/-- The real subdirectories of a directory, by name. -/
def subdirectories (entries : List (String × Entry)) : List String :=
  (entries.filterMap fun
    | (name, .directory _) => some name
    | _ => none).mergeSort fun a b => a ≤ b

/-- Where a toolchain may lie in and near a directory, best first. -/
def candidates (directory : String) (entries : List (String × Entry)) : List String :=
  under directory ["go", "bin", program] ::
    (subdirectories entries).flatMap fun name =>
      [under directory [name, "go", "bin", program], under directory [name, "bin", program]]

/-- Where programs are looked for if no search path is given. -/
def systemSearchPath : String := "/bin:/usr/bin"

/-- The search path of the process. -/
def searchPath (h : Host) : String := (h.value? "PATH").getD systemSearchPath

/-- The first program on a search path.  An empty element stands for the working directory, an
    empty search path for nothing. -/
def onSearchPath (fs : FileSystem) (path : String) : Option String :=
  if path.isEmpty then none
  else
    let directories := (splitAt ':' path.toList).map String.ofList
    (directories.map (Path.join · program)).find? fs.isExecutable

/-- The program, searched in a directory and then on the search path. -/
def find (h : Host) (directory : Option String) (platform : Platform) : Except Failure String :=
  match directory.elim h.files.workingDirectory .ok with
  | .error _ => .ok program
  | .ok here =>
    let entries := match h.files.list here with
      | .ok entries => some entries
      | .error .nul => none
      | .error _ => some []
    match entries with
    | none => .error (.refused .nul here)
    | some entries =>
      let nearby := (candidates here entries).map platform.executable
      match nearby.find? h.files.isRegular with
      | some file => .ok file
      | none => .ok ((onSearchPath h.files (searchPath h)).getD program)

/-- The program, where `overrides` may name a root. -/
def locate (h : Host) (overrides : List (String × String)) (directory : Option String)
    (platform : Platform) : Except Failure String :=
  match overrides.lookup rootVariable with
  | some root => if root.isEmpty then find h directory platform else .ok (ofRoot root)
  | none => find h directory platform

end GoWorkbench.Toolchain
