/-
  A file system as a value.

  A file system is a tree of directories, files and symbolic links, together with the directory
  that relative paths start from.  Everything that asks about a path goes through one function,
  `FileSystem.reach`, which walks the path as an operating system does: component by component,
  following links, at most forty of them.  What it ends at is an object with its *location*, the
  names that lead to it from the root without any link.

  The working directory may have been removed.  It then still has a parent to go up to, but
  nothing is in it and nothing can be made in it; `Place.gone` counts how many of the last names
  of a place no longer exist.
-/
import GoWorkbench.Path
import GoWorkbench.Text.Quoted
import GoWorkbench.Text.Utf8

namespace GoWorkbench

open GoWorkbench.Text

/-- What a directory can hold. -/
inductive Entry
  | file (data : List UInt8) (executable : Bool)
  | link (target : String)
  | directory (entries : List (String × Entry))

/-- A directory by the names that lead to it from the root, the last `gone` of which have been
    removed. -/
structure Place where
  names : List String
  gone : Nat := 0
deriving DecidableEq, Repr

/-- The directory that holds this one; the root holds itself. -/
def Place.parent (p : Place) : Place := ⟨p.names.dropLast, p.gone - 1⟩

/-- A name within the place. -/
def Place.child (p : Place) (name : String) : Place := ⟨p.names ++ [name], 0⟩

def Place.root : Place := ⟨[], 0⟩

structure FileSystem where
  /-- What the root directory holds. -/
  entries : List (String × Entry)
  /-- Where relative paths start. -/
  current : Place

/-! ## Trouble with paths -/

/-- Why a path cannot be used. -/
inductive Trouble
  | missing
  | exists
  | notDirectory
  | isDirectory
  | nameTooLong
  | loop
  /-- The user has no right to it. -/
  | denied
  /-- No operating system takes a path with a NUL in it. -/
  | nul
deriving DecidableEq, Repr

/-- The number and the words of a refusal by the operating system. -/
def Trouble.refusal : Trouble → Option (Nat × String)
  | .missing => some (2, "No such file or directory")
  | .exists => some (17, "File exists")
  | .denied => some (13, "Permission denied")
  | .notDirectory => some (20, "Not a directory")
  | .isDirectory => some (21, "Is a directory")
  | .nameTooLong => some (36, "File name too long")
  | .loop => some (40, "Too many levels of symbolic links")
  | .nul => none

/-- A trouble with the path it was met on, if a path was given. -/
structure PathError where
  trouble : Trouble
  path : Option String
deriving DecidableEq, Repr

/-- The error text. -/
def PathError.message (e : PathError) : String :=
  match e.trouble.refusal, e.path with
  | none, _ => "embedded null byte"
  | some (n, text), none => s!"[Errno {n}] {text}"
  | some (n, text), some path => s!"[Errno {n}] {text}: {quoted path}"

namespace Entry

def isFile : Entry → Bool
  | file _ _ => true
  | _ => false

/-- The entry of a name. -/
def child? (name : String) : List (String × Entry) → Option Entry :=
  List.lookup name

/-- What the names lead to, without following links. -/
def at? : List String → List (String × Entry) → Option Entry
  | [], entries => some (.directory entries)
  | [name], entries => child? name entries
  | name :: rest, entries => match child? name entries with
    | some (.directory inner) => at? rest inner
    | _ => none

/-- Puts an entry in place of what has its name, at the end if nothing has. -/
def place (name : String) (entry : Entry) : List (String × Entry) → List (String × Entry)
  | [] => [(name, entry)]
  | (n, e) :: rest => if n = name then (name, entry) :: rest else (n, e) :: place name entry rest

/-- Puts an entry where the names lead; directories on the way are made. -/
def put : List String → Entry → List (String × Entry) → List (String × Entry)
  | [], _, entries => entries
  | [name], entry, entries => place name entry entries
  | name :: rest, entry, entries =>
    let inner := match child? name entries with
      | some (.directory inner) => inner
      | _ => []
    place name (.directory (put rest entry inner)) entries

/-- Takes away what the names lead to. -/
def erase : List String → List (String × Entry) → List (String × Entry)
  | [], entries => entries
  | [name], entries => entries.filter (·.1 != name)
  | name :: rest, entries => match child? name entries with
    | some (.directory inner) => place name (.directory (erase rest inner)) entries
    | _ => entries

end Entry

namespace FileSystem

/-! ## Walking -/

/-- What a path leads to: an object at a location, or a free name in an existing directory. -/
inductive Target
  | object (location : Place) (entry : Entry)
  | vacant (parent : Place) (name : String)

/-- What a path is walked for. -/
inductive Purpose
  /-- To look at what is there. -/
  | look
  /-- To look at what is there, even if it is a link. -/
  | lookAtLink
  /-- To write a file there. -/
  | create
deriving DecidableEq, Repr

/-- The entries of a directory; a removed one has none. -/
def entriesAt (fs : FileSystem) (p : Place) : List (String × Entry) :=
  if p.gone > 0 then []
  else match Entry.at? p.names fs.entries with
    | some (.directory entries) => entries
    | _ => []

/-- How many links a walk may follow. -/
def maxLinks : Nat := 40

/-- How long a name may be, in bytes. -/
def maxName : Nat := 255

/-- How long a path may be, in bytes. -/
def maxPath : Nat := 4095

/-- The components of a path: its parts that are not empty. -/
def components (path : String) : List String := (Path.parts path).filter fun c => !c.isEmpty

/-- The path ends in a slash, so it must lead to a directory. -/
def endsInSlash (path : String) : Bool := path.toList.getLast? = some '/'

/-- Walks components from `here`, following at most `links` links.  `slash` says that a slash
    follows the last component. -/
def walk (fs : FileSystem) (purpose : Purpose) (slash : Bool) (links : Nat) (here : Place)
    (todo : List String) : Except Trouble Target :=
  match todo with
  | [] => .ok (.object here (.directory (fs.entriesAt here)))
  | name :: rest =>
    if name = "." then walk fs purpose slash links here rest
    else if name = ".." then walk fs purpose slash links here.parent rest
    else if rest.isEmpty && slash && purpose = .create then .error .isDirectory
    else if maxName < name.utf8ByteSize then .error .nameTooLong
    else match Entry.child? name (fs.entriesAt here) with
      | none =>
        if rest.isEmpty && here.gone = 0 then .ok (.vacant here name) else .error .missing
      | some (.directory _) => walk fs purpose slash links (here.child name) rest
      | some (.file data executable) =>
        if rest.isEmpty && !slash then .ok (.object (here.child name) (.file data executable))
        else .error .notDirectory
      | some (.link target) =>
        if rest.isEmpty && !slash && purpose = .lookAtLink then
          .ok (.object (here.child name) (.link target))
        else match links with
          | 0 => .error .loop
          | links + 1 =>
            walk fs purpose (slash || (rest.isEmpty && endsInSlash target)) links
              (if Path.isAbsolute target then .root else here) (components target ++ rest)
termination_by (links, todo.length)

/-- What a path leads to. -/
def reach (fs : FileSystem) (purpose : Purpose) (path : String) : Except Trouble Target :=
  if '\x00' ∈ path.toList then .error .nul
  else if path.isEmpty then .error .missing
  else if maxPath < path.utf8ByteSize then .error .nameTooLong
  else walk fs purpose (endsInSlash path) maxLinks
    (if Path.isAbsolute path then .root else fs.current) (components path)

/-! ## Asking -/

/-- The object that a path leads to, links followed, with its location. -/
def find (fs : FileSystem) (path : String) : Except Trouble (Place × Entry) :=
  match fs.reach .look path with
  | .error t => .error t
  | .ok (.vacant _ _) => .error .missing
  | .ok (.object location entry) => .ok (location, entry)

/-- The object that a path leads to, which may be a link. -/
def findLink (fs : FileSystem) (path : String) : Except Trouble Entry :=
  match fs.reach .lookAtLink path with
  | .error t => .error t
  | .ok (.vacant _ _) => .error .missing
  | .ok (.object _ entry) => .ok entry

/-- Something is there. -/
def existsAt (fs : FileSystem) (path : String) : Bool := (fs.find path).isOk

/-- A directory is there. -/
def isDirectory (fs : FileSystem) (path : String) : Bool :=
  match fs.find path with
  | .ok (_, .directory _) => true
  | _ => false

/-- Something that is no directory is there. -/
def isRegular (fs : FileSystem) (path : String) : Bool :=
  fs.existsAt path && !fs.isDirectory path

/-- A link is there. -/
def isLink (fs : FileSystem) (path : String) : Bool :=
  match fs.findLink path with
  | .ok (.link _) => true
  | _ => false

/-- A file that may be run is there. -/
def isExecutable (fs : FileSystem) (path : String) : Bool :=
  match fs.find path with
  | .ok (_, .file _ executable) => executable
  | _ => false

/-- The text of the working directory, unless it has been removed. -/
def workingDirectory (fs : FileSystem) : Except Trouble String :=
  if fs.current.gone > 0 then .error .missing else .ok ("/" ++ Path.slashed fs.current.names)

/-- The path from the root, with `.` and `..` taken out of the text. -/
def absolute (fs : FileSystem) (path : String) : Except Trouble String :=
  if Path.isAbsolute path then .ok (Path.normalize path)
  else match fs.workingDirectory with
    | .error t => .error t
    | .ok here => .ok (Path.normalize (Path.join here path))

/-- The bytes of a file. -/
def read (fs : FileSystem) (path : String) : Except Trouble (List UInt8) :=
  match fs.find path with
  | .error t => .error t
  | .ok (_, .file data _) => .ok data
  | .ok _ => .error .isDirectory

/-- The entries of a directory. -/
def list (fs : FileSystem) (path : String) : Except Trouble (List (String × Entry)) :=
  match fs.find path with
  | .error t => .error t
  | .ok (_, .directory entries) => .ok entries
  | .ok _ => .error .notDirectory

/-! ## Changing -/

/-- Puts an entry at a location. -/
def put (fs : FileSystem) (names : List String) (entry : Entry) : FileSystem :=
  { fs with entries := Entry.put names entry fs.entries }

/-- Opens a file for writing from scratch and puts the bytes in it.  A new file is made if the path
    leads to a free name, at the end of a link if need be.  A writing that is broken off once the
    file is open is one of fewer bytes. -/
def write (fs : FileSystem) (path : String) (data : List UInt8) : Except Trouble FileSystem :=
  match fs.reach .create path with
  | .error t => .error t
  | .ok (.vacant parent name) => .ok (fs.put (parent.names ++ [name]) (.file data false))
  | .ok (.object location (.file _ executable)) =>
    .ok (fs.put location.names (.file data executable))
  | .ok _ => .error .isDirectory

/-- Opens a file to add to it.  It is made if it is not there, and else as it was. -/
def touch (fs : FileSystem) (path : String) : Except Trouble FileSystem :=
  if fs.isRegular path then .ok fs else fs.write path []

/-- Makes a new file; the name must be free, links included. -/
def createNew (fs : FileSystem) (path : String) (data : List UInt8) :
    Except Trouble FileSystem :=
  match fs.reach .lookAtLink path with
  | .error t => .error t
  | .ok (.vacant parent name) => .ok (fs.put (parent.names ++ [name]) (.file data false))
  | .ok _ => .error .exists

/-- The place after a directory with these names has been removed. -/
def Place.without (p : Place) (names : List String) : Place :=
  if names.isPrefixOf p.names then
    { p with gone := max p.gone (p.names.length - names.length + 1) }
  else p

/-- Takes away the object at a location, with all that is in it. -/
def erase (fs : FileSystem) (names : List String) : FileSystem :=
  { entries := Entry.erase names fs.entries, current := Place.without fs.current names }

/-- Removes a file or a link.  `refusal` is why the system lets nothing be taken out of the directory
    that it is in, if it does not. -/
def remove (fs : FileSystem) (path : String) (refusal : Option Trouble := none) :
    Except Trouble FileSystem :=
  match fs.reach .lookAtLink path with
  | .error t => .error t
  | .ok (.vacant _ _) => .error .missing
  | .ok (.object _ (.directory _)) => .error .isDirectory
  | .ok (.object location _) => match refusal with
    | some t => .error t
    | none => .ok (fs.erase location.names)

/-- Makes a directory the one that relative paths start from. -/
def enter (fs : FileSystem) (path : String) : Except Trouble FileSystem :=
  match fs.find path with
  | .error t => .error t
  | .ok (location, .directory _) => .ok { fs with current := location }
  | .ok _ => .error .notDirectory

end FileSystem

end GoWorkbench
