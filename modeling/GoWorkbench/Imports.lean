/-
  What file an import means.

  A specifier is looked up in one or two directories, and in each with the endings that sources
  have; the first file wins.  A specifier that begins with a dot is looked up beside the
  importing file, one that begins with `@/` in the workspace and its `src`, and any other beside
  the importing file and then in the workspace.
-/
import GoWorkbench.FileSystem.Basic

namespace GoWorkbench.Imports

/-- What may be missing at the end of a specifier, most likely first. -/
def endings : List String := [
  "", ".go", ".ts", ".tsx", ".js", ".jsx", ".json",
  "/index.go", "/index.ts", "/index.tsx", "/index.js"]

/-- A path with each of the endings. -/
def withEndings (path : String) : List String := endings.map (path ++ ·)

/-- What a specifier begins with that is looked up in the workspace. -/
def workspaceMark : String := "@/"

/-- The specifier begins with `@/`. -/
def isAliased (specifier : String) : Bool := workspaceMark.toList.isPrefixOf specifier.toList

/-- The specifier begins with a dot. -/
def isRelative (specifier : String) : Bool := specifier.toList.head? = some '.'

/-- The specifier without its `@/`. -/
def bareName (specifier : String) : String :=
  String.ofList (specifier.toList.drop workspaceMark.length)

/-- The first file among a path with each of the endings. -/
def firstFile (fs : FileSystem) (path : String) : Option String :=
  (withEndings path).find? fs.isRegular

/-- The first file among a name in a directory with each of the endings. -/
def firstIn (fs : FileSystem) (directory name : String) : Option String :=
  firstFile fs (Path.normalize (Path.join directory name))

/-- The file that a specifier in the file `base` means; the empty specifier means none.  An empty
    root is no root. -/
def resolve (fs : FileSystem) (base specifier : String) (root : Option String) : Option String :=
  let beside := firstIn fs (Path.directory base) specifier
  let root := root.filter fun r => !r.isEmpty
  if specifier.isEmpty then none
  else if isRelative specifier then beside
  else if isAliased specifier then
    root.bind fun r =>
      (firstIn fs r (bareName specifier)).or
        (firstIn fs (Path.join r "src") (bareName specifier))
  else match beside with
    | some file => some file
    | none => root.bind fun r => firstIn fs r specifier

end GoWorkbench.Imports
