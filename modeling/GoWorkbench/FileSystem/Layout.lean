/-
  Laying out a file system by hand, and showing all of it.

  `plant` puts a file, a link or a directory at a path and makes the directories on the way;
  `clear` takes away whatever is at a path; `listing` shows everything below a directory.
-/
import GoWorkbench.FileSystem.Basic

namespace GoWorkbench.FileSystem

/-- A file system that holds nothing but directories, one within the other. -/
def bare : List String → FileSystem
  | names => ⟨Entry.put names (.directory []) [], .root⟩

/-! ## Planting -/

/-- What to put at a path. -/
inductive Seed
  | file (data : List UInt8) (executable : Bool)
  | link (target : String)
  | directory

/-- Makes one directory, if its name is free. -/
def makeDirectory (fs : FileSystem) (path : String) : FileSystem :=
  match fs.reach .look path with
  | .ok (.vacant parent name) => fs.put (parent.names ++ [name]) (.directory [])
  | _ => fs

/-- The path and the paths it lies in, outermost first. -/
def ancestry (path : String) : List String :=
  let names := components path
  let root := if Path.isAbsolute path then "/" else ""
  (List.range names.length).map fun n => root ++ Path.slashed (names.take (n + 1))

/-- Makes a directory and those it lies in, as far as they are missing. -/
def makeDirectories (fs : FileSystem) (path : String) : FileSystem :=
  (ancestry path).foldl makeDirectory fs

/-- Makes what is at a path executable, if it is a file. -/
def allowExecution (fs : FileSystem) (path : String) : FileSystem :=
  match fs.find path with
  | .ok (location, .file data _) => fs.put location.names (.file data true)
  | _ => fs

/-- Puts something at a path; the directories on the way are made. -/
def plant (fs : FileSystem) (path : String) (seed : Seed) : Except Trouble FileSystem :=
  let fs := fs.makeDirectories (Path.directory path)
  match seed with
  | .directory => .ok (fs.makeDirectories path)
  | .file data executable => (fs.write path data).map fun fs =>
    if executable then fs.allowExecution path else fs
  | .link target => match fs.reach .lookAtLink path with
    | .ok (.vacant parent name) => .ok (fs.put (parent.names ++ [name]) (.link target))
    | .ok _ => .error .exists
    | .error t => .error t

/-- Takes away a file, a link, or a directory with all that is in it. -/
def clear (fs : FileSystem) (path : String) : Except Trouble FileSystem :=
  match fs.reach .lookAtLink path with
  | .ok (.object location _) => .ok (fs.erase location.names)
  | .ok _ => .error .missing
  | .error t => .error t

/-! ## Listing -/

/-- What a listing says about a path. -/
inductive Listed
  | file (data : List UInt8)
  | link (target : String)
  | directory
deriving DecidableEq, Repr

/-- Everything in the entries, each with its path; directories end in a slash. -/
def unfolded (here : String) : List (String × Entry) → List (String × Listed)
  | [] => []
  | (name, .file data _) :: rest => (here ++ name, .file data) :: unfolded here rest
  | (name, .link target) :: rest => (here ++ name, .link target) :: unfolded here rest
  | (name, .directory entries) :: rest =>
    (here ++ name ++ "/", .directory) :: unfolded (here ++ name ++ "/") entries ++
      unfolded here rest

/-- Everything below a directory, sorted by path. -/
def listing (fs : FileSystem) (path : String) : List (String × Listed) :=
  match fs.list path with
  | .ok entries => (unfolded "" entries).mergeSort fun a b => a.1 ≤ b.1
  | .error _ => []

end GoWorkbench.FileSystem
