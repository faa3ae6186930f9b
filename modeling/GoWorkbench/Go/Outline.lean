/-
  The outline of a source: the declarations at file scope, with the places of their names.

  Only three levels of a syntax tree are looked at: the root, the declarations directly under it,
  and their specifications, which stand directly in a declaration or in one list inside it.  A
  tree with an error anywhere has no outline at all.
-/
import GoWorkbench.Go.Grammar

namespace GoWorkbench.Go

/-- What a symbol names. -/
inductive SymbolKind
  | function
  | method
  | struct
  | variable
  | constant
deriving DecidableEq, Repr

/-- The word for a kind of symbol. -/
def SymbolKind.name : SymbolKind → String
  | .function => "Function"
  | .method => "Method"
  | .struct => "Struct"
  | .variable => "Variable"
  | .constant => "Constant"

/-- A declared name and its place, counted from one: the line, and the byte within the line. -/
structure Symbol where
  name : String
  kind : SymbolKind
  path : String
  line : Nat
  column : Nat
deriving DecidableEq, Repr

/-- The symbol of a name; a name without text gives none. -/
def symbolOf (path : String) (kind : SymbolKind) (n : Node) : Option Symbol :=
  if n.label.text.isEmpty then none
  else some ⟨n.label.text, kind, path, n.label.start.row + 1, n.label.start.column + 1⟩

/-- The specifications of a declaration, those in a list taken out of it. -/
def specs (declaration : Node) (kinds : List Kind) : List Node :=
  declaration.namedChildren.flatMap fun child =>
    if child.label.kind ∈ kinds then [child]
    else if child.label.kind ∈ [.varSpecList, .constSpecList, .typeSpecList] then
      child.namedChildren.filter (·.label.kind ∈ kinds)
    else []

/-- The first name of a declaration or specification. -/
def firstName (n : Node) : List Node := (n.inField .name).take 1

/-- All names of a specification. -/
def allNames (n : Node) : List Node := (n.inField .name).filter (·.label.kind = .identifier)

/-- The names that a node at file scope declares, with what they name. -/
def declaredBy (n : Node) : List (SymbolKind × Node) :=
  match n.label.kind with
  | .functionDeclaration => (firstName n).map (.function, ·)
  | .methodDeclaration => (firstName n).map (.method, ·)
  | .typeDeclaration => ((specs n [.typeSpec, .typeAlias]).flatMap firstName).map (.struct, ·)
  | .varDeclaration => ((specs n [.varSpec]).flatMap allNames).map (.variable, ·)
  | .constDeclaration => ((specs n [.constSpec]).flatMap allNames).map (.constant, ·)
  | _ => []

/-- The symbols of a syntax tree, in the order of the source. -/
def symbolsOf (path : String) (root : Node) : List Symbol :=
  if root.hasError then []
  else (root.namedChildren.flatMap declaredBy).filterMap fun (kind, n) => symbolOf path kind n

/-- The symbols of a source. -/
def outline (source : List UInt8) (path : String) : List Symbol :=
  symbolsOf path (parse source)

end GoWorkbench.Go
