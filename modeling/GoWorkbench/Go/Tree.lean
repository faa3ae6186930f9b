/-
  Syntax trees of Go source.

  A node carries its kind, the field it fills in its parent (if any), whether it is named (as
  opposed to punctuation), whether it stands for a syntax error, its text and where it starts.
  Nothing here depends on how a tree came about: what is read off a tree is read off every tree.
-/
import GoWorkbench.Go.Token

namespace GoWorkbench.Go

/-- Kinds of nodes; those that no declaration at file scope is made of are told apart by name. -/
inductive Kind
  | sourceFile
  | functionDeclaration
  | methodDeclaration
  | typeDeclaration
  | typeSpecList
  | typeSpec
  | typeAlias
  | varDeclaration
  | varSpecList
  | varSpec
  | constDeclaration
  | constSpecList
  | constSpec
  | identifier
  | other (name : String)
deriving DecidableEq, Repr

/-- The role of a node in its parent. -/
inductive Field
  | name
  | other (name : String)
deriving DecidableEq, Repr

/-- What a node is, apart from its children. -/
structure Label where
  kind : Kind
  field : Option Field := none
  named : Bool := true
  error : Bool := false
  text : String := ""
  start : Position := ⟨0, 0⟩
deriving DecidableEq, Repr

inductive Node
  | mk (label : Label) (children : List Node)

namespace Node

def label : Node → Label
  | mk l _ => l

def children : Node → List Node
  | mk _ cs => cs

/-- The same node in another role. -/
def withField (f : Field) : Node → Node
  | mk l cs => mk { l with field := some f } cs

mutual

/-- There is an error at the node or anywhere below it. -/
def hasError : Node → Bool
  | mk l cs => l.error || anyError cs

/-- There is an error at or below one of the nodes. -/
def anyError : List Node → Bool
  | [] => false
  | c :: cs => hasError c || anyError cs

end

theorem anyError_eq (cs : List Node) : anyError cs = cs.any hasError := by
  induction cs with
  | nil => rw [anyError, List.any_nil]
  | cons c cs ih => rw [anyError, ih, List.any_cons]

/-- The children that are not punctuation. -/
def namedChildren (n : Node) : List Node := n.children.filter (·.label.named)

/-- The children in the role `f`. -/
def inField (f : Field) (n : Node) : List Node := n.children.filter (·.label.field = some f)

end Node

end GoWorkbench.Go
