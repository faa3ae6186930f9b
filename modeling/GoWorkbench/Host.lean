/-
  What surrounds the program: files, the environment it was started with, the names of system
  and processor, and the log it writes.

  Paths that a user gives may begin with `~`, which stands for the home directory; the variable
  `HOME` says where that is.
-/
import GoWorkbench.Failure
import GoWorkbench.Log

namespace GoWorkbench

structure Host where
  files : FileSystem
  /-- The variables of the process, each name once. -/
  environment : List (String × String)
  /-- The name of the operating system. -/
  system : String
  /-- The name of the processor. -/
  machine : String
  /-- Where scratch files are made. -/
  temporary : String
  /-- The names of files that are no text, each as the text that stands for it here. -/
  garbled : List String := []
  /-- How many names of scratch files have been tried. -/
  scratchNames : Nat := 0
  /-- What has been reported, the first report first. -/
  log : List LogRecord := []

namespace Host

/-- The value of a variable. -/
def value? (h : Host) (name : String) : Option String := h.environment.lookup name

/-- Variables with one of them set. -/
def setVariable (name value : String) : List (String × String) → List (String × String)
  | [] => [(name, value)]
  | (n, v) :: rest =>
    if n = name then (name, value) :: rest else (n, v) :: setVariable name value rest

/-- Variables with one of them taken out. -/
def unsetVariable (name : String) (environment : List (String × String)) :
    List (String × String) :=
  environment.filter (·.1 ≠ name)

/-- Adds a report to the log. -/
def report (h : Host) (level : LogLevel) (source message : String) : Host :=
  { h with log := h.log ++ [⟨level, source, message⟩] }

/-- The home directory. -/
def home? (h : Host) : Option String :=
  (h.value? "HOME").map fun home =>
    let bare := String.ofList (home.toList.reverse.dropWhile (· == '/')).reverse
    if bare.isEmpty then "/" else bare

/-- The plain form of a path, where `~` as the first component stands for the home directory.
    The homes of other users are not known. -/
def expandHome (h : Host) (path : String) : Except Failure String :=
  let plain := Path.plain path
  match Path.parts plain with
  | first :: rest =>
    if first.toList.head? ≠ some '~' then .ok plain
    else if first ≠ "~" then .error .homeless
    else match h.home? with
      | none => .error .homeless
      | some home =>
        if home.toList.head? = some '~' then .error .homeless
        else .ok (Path.plain (rest.foldl Path.join home))
  | [] => .ok plain

/-- Every name in the path is a text. -/
def isText (h : Host) (path : String) : Bool := (Path.parts path).all fun n => n ∉ h.garbled

/-- The link-free form of a path. -/
def canonical (h : Host) (path : String) : Except Failure String :=
  match h.files.canonical path with
  | .ok text => .ok text
  | .error e => .error (.ofUnresolved path e)

/-- The path from the root, with `.` and `..` taken out of the text. -/
def absolute (h : Host) (path : String) : Except Failure String :=
  match h.files.absolute path with
  | .ok text => .ok text
  | .error t => .error (.adrift t)

/-- One path lies in another, links followed. -/
def isWithin (h : Host) (path root : String) : Except Failure Bool :=
  match h.files.isWithin path root with
  | .ok b => .ok b
  | .error e => .error (.ofUnresolved path e)

/-- The bytes of a file. -/
def read (h : Host) (path : String) : Except Failure (List UInt8) :=
  match h.files.read path with
  | .ok data => .ok data
  | .error t => .error (.refused t path)

/-- Writes a file.  `fault` is what breaks off the writing, if anything does. -/
def write (h : Host) (path : String) (data : List UInt8) (fault : Option Breach := none) :
    Except Failure Unit × Host :=
  match h.files.write path (Breach.kept fault data), fault with
  | .error t, _ => (.error (.refused t path), h)
  | .ok files, some breach => (.error (.interrupted breach.how), { h with files })
  | .ok files, none => (.ok (), { h with files })

/-- The troubles with a path that mean that nothing is there.  Other troubles are worth a
    failure of their own. -/
def meansNothing : Trouble → Bool
  | .missing | .notDirectory | .loop | .nul => true
  | _ => false

/-- Looks whether a path leads to what is asked for; a path that the operating system refuses
    for its length is a failure. -/
def probe (h : Host) (path : String) (test : Entry → Bool) : Except Failure Bool :=
  match h.files.find path with
  | .ok (_, entry) => .ok (test entry)
  | .error t => if meansNothing t then .ok false else .error (.refused t path)

end Host

end GoWorkbench
