/-
  The Go sources of a tree.

  A scan descends into every real directory whose name neither begins with a dot nor is to be
  skipped, and finds every file whose name ends in `.go`.  The entries of a directory are taken
  by name, directories at their place among the files, so the order of the paths does not depend
  on how a file system lists its entries.  A directory whose path is longer than an operating
  system takes cannot be listed, and what is in it is not found.

  If it is wanted, the rules in `.gitignore` directly in the root take files out, unless that is
  a link.  The name of the root itself is never looked at.
-/
import GoWorkbench.Go.Outline
import GoWorkbench.Host
import GoWorkbench.Scan.Ignore

namespace GoWorkbench.Scan

/-- What a scan leaves out. -/
structure Options where
  /-- The names of directories that are not descended into. -/
  skipped : List String := ["node_modules", "vendor"]
  /-- The rules in `.gitignore` hold. -/
  respectIgnore : Bool := false
deriving DecidableEq, Repr

/-! ## Walking -/

/-- The directory is not descended into. -/
def isPruned (skipped : List String) (name : String) : Bool :=
  name.toList.head? = some '.' || name ∈ skipped

/-- The scan does not get into the directory of this name in the directory at the path `here`: it is
    pruned, or its path is too long. -/
def isClosed (skipped : List String) (here name : String) : Bool :=
  isPruned skipped name || FileSystem.maxPath < (Path.join here name).utf8ByteSize

/-- Blocks by the names of the entries they come from. -/
def inOrder (blocks : List (String × List (List String))) : List (List String) :=
  (blocks.mergeSort fun a b => a.1 ≤ b.1).flatMap (·.2)

/-- For each entry of the directory at the path `here`, the sources that it is or holds, as the
    names that lead to them. -/
def blocks (skipped : List String) (here : String) :
    List (String × Entry) → List (String × List (List String))
  | [] => []
  | (_, .link _) :: rest => blocks skipped here rest
  | (name, .file _ _) :: rest =>
    (if Path.isGoSource name then [(name, [[name]])] else []) ++ blocks skipped here rest
  | (name, .directory entries) :: rest =>
    (if isClosed skipped here name then []
      else [(name, (inOrder (blocks skipped (Path.join here name) entries)).map (name :: ·))]) ++
      blocks skipped here rest

/-- The sources below the directory at the path `here`, in order, as the names that lead to
    them. -/
def sourcesIn (skipped : List String) (here : String) (entries : List (String × Entry)) :
    List (List String) :=
  inOrder (blocks skipped here entries)

/-! ## Scanning -/

/-- Says of a source, by the names that lead to it, whether it is left out. -/
abbrev Matcher := List String → Except RuleFault Bool

/-- The file with the rules for a root. -/
def ignoreFile (root : String) : String := Path.plain (Path.join root ".gitignore")

/-- There are rules for a root, and they are wanted. -/
def hasRules (h : Host) (options : Options) (root : String) : Except Failure Bool := do
  if !options.respectIgnore then return false
  let isFile ← h.probe (ignoreFile root) Entry.isFile
  return isFile && !h.files.isLink (ignoreFile root)

/-- The matcher of the rules in a file. -/
def readRules (h : Host) (file : String) : Except Failure Matcher := do
  let rules ← rulesOf (← h.read file)
  return fun names => ignores rules (Path.slashed names).toList

/-- The sources that are not left out. -/
def kept (matcher : Matcher) : List (List String) → Except RuleFault (List (List String))
  | [] => .ok []
  | names :: rest => do
    let out ← matcher names
    let rest ← kept matcher rest
    return if out then rest else names :: rest

/-- The path that names lead to from the top of a scan. -/
def pathOf (top : String) (names : List String) : String := Path.join top (Path.slashed names)

/-- The paths of the sources below a directory that are not left out.  What is no directory has
    none. -/
def filesBelow (h : Host) (skipped : List String) (matcher : Matcher) (top : String) :
    Except Failure (List String) :=
  match h.files.list top with
  | .error .nul => .error (.refused .nul top)
  | .error _ => .ok []
  | .ok entries => do
    let found ← (kept matcher (sourcesIn skipped top entries)).mapError .rule
    return found.map (pathOf top)

/-- The absolute paths of the sources below a root, where `read` makes a matcher of a file with
    rules. -/
def sourceFilesBy (read : Host → String → Except Failure Matcher) (h : Host) (options : Options)
    (root : String) : Except Failure (List String) := do
  let root := Path.plain root
  let matcher ←
    if ← hasRules h options root then read h (ignoreFile root) else pure fun _ => .ok false
  let top ← h.absolute root
  filesBelow h options.skipped matcher top

/-- The absolute paths of the sources below a root. -/
def sourceFiles (h : Host) (options : Options) (root : String) : Except Failure (List String) :=
  sourceFilesBy readRules h options root

/-! ## Symbols -/

/-- The symbols of one file; a file that cannot be read has none. -/
def fileSymbols (h : Host) (file : String) : Except Failure (List Go.Symbol) :=
  match h.files.read file with
  | .ok source => .ok (Go.outline source file)
  | .error .nul => .error (.refused .nul file)
  | .error _ => .ok []

/-- The symbols of files, file by file. -/
def symbolsOfFiles (h : Host) : List String → Except Failure (List Go.Symbol)
  | [] => .ok []
  | file :: rest => do
    let symbols ← fileSymbols h file
    let others ← symbolsOfFiles h rest
    return symbols ++ others

/-- The symbols of all sources below a root. -/
def symbols (h : Host) (options : Options) (root : String) : Except Failure (List Go.Symbol) := do
  symbolsOfFiles h (← sourceFiles h options root)

end GoWorkbench.Scan
