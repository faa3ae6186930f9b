/-
  Paths as text.

  A path is a string of names with slashes between; nothing here looks at a file system.  Two
  normal forms are told apart.  `Path.plain` drops what never changes the meaning of a path
  (repeated slashes, `.` components, a trailing slash).  `Path.normalize` also takes `..`
  components out against the name before them, which is right only where no symbolic link is
  involved.  In both, exactly two slashes at the start stay two.
-/
import GoWorkbench.Text.Blank

namespace GoWorkbench.Path

open GoWorkbench.Text

/-- The parts of a path between its slashes. -/
def parts (path : String) : List String := (splitAt '/' path.toList).map String.ofList

/-- The path starts at the root. -/
def isAbsolute (path : String) : Bool := path.toList.head? = some '/'

/-- The slashes at the start, of which two stay two and more are one. -/
def rootOf (path : String) : String :=
  match path.toList with
  | '/' :: '/' :: '/' :: _ => "/"
  | '/' :: '/' :: _ => "//"
  | '/' :: _ => "/"
  | _ => ""

/-- The names with slashes between. -/
def slashed (names : List String) : String := String.intercalate "/" names

/-- `child` seen from `directory`. -/
def join (directory child : String) : String :=
  if isAbsolute child then child
  else if directory.isEmpty || directory.toList.getLast? = some '/' then directory ++ child
  else directory ++ "/" ++ child

/-- The path without repeated slashes, `.` components and a trailing slash. -/
def plain (path : String) : String :=
  let text := rootOf path ++ slashed ((parts path).filter fun c => !c.isEmpty && c != ".")
  if text.isEmpty then "." else text

/-- One more component on a reversed list of components; `rooted` says that `..` at the front
    means nothing. -/
def push (rooted : Bool) (names : List String) (component : String) : List String :=
  if component.isEmpty || component == "." then names
  else if component != ".." then component :: names
  else match names with
    | [] => if rooted then [] else [".."]
    | last :: rest => if last == ".." then ".." :: names else rest

/-- The components that are left when `..` has been taken out. -/
def collapse (rooted : Bool) (components : List String) : List String :=
  (components.foldl (push rooted) []).reverse

/-- The path with `.` and `..` components taken out. -/
def normalize (path : String) : String :=
  let root := rootOf path
  let text := root ++ slashed (collapse (!root.isEmpty) (parts path))
  if text.isEmpty then "." else text

/-- What stands before the last slash, without the slashes that end it unless it is all
    slashes. -/
def directory (path : String) : String :=
  let head := (path.toList.reverse.dropWhile (· != '/'))
  let bare := head.dropWhile (· == '/')
  String.ofList (if bare.isEmpty then head.reverse else bare.reverse)

/-- The path ends in `.go`. -/
def isGoSource (path : String) : Bool := ".go".toList.isSuffixOf path.toList

end GoWorkbench.Path
