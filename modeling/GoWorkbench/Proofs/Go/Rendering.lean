/-
  Declarations written down as Go source, and where their names are then.

  1. **Declarations** — functions and methods with empty bodies, and types, variables and constants,
     each alone or several in parentheses.  Names and numbers carry the proof that they are such, so
     every declaration can be written down.
  2. **Rendering** — after the package clause, each declaration or specification is a line of its
     own.
  3. **Places** — the symbols of a rendering have the places at which their names are written: the
     newlines before the name, and the bytes since the last one (`symbolsIn`).
  4. **Readability** — a rendering is readable text (`readable_render`).
-/
import GoWorkbench.Proofs.Go.Lexemes

namespace GoWorkbench.Go

open Text

/-! ## Declarations -/

/-- A name of ASCII letters, digits and underscores that is not reserved and no operand. -/
structure Identifier where
  text : String
  free : isFree text = true

/-- An integer literal. -/
structure Literal where
  text : String
  integer : Lexical.integer.accepts text.toList = true

/-- What a method is declared on. -/
structure Receiver where
  name : Option Identifier
  pointer : Bool
  type : Identifier

/-- A type: another name of `int`, or a structure without fields. -/
structure TypeSpec where
  name : Identifier
  isAlias : Bool

/-- Variables of type `int`. -/
structure VarSpec where
  first : Identifier
  more : List Identifier

/-- Constants and their values. -/
structure ConstSpec where
  first : Identifier × Literal
  more : List (Identifier × Literal)

/-- One specification alone, or several in parentheses. -/
inductive Specs (α : Type)
  | single (spec : α)
  | group (first : α) (more : List α)

/-- A declaration at file scope. -/
inductive Declaration
  | function (name : Identifier)
  | method (receiver : Receiver) (name : Identifier)
  | types (specs : Specs TypeSpec)
  | vars (specs : Specs VarSpec)
  | consts (specs : Specs ConstSpec)

/-- The specifications in order. -/
def Specs.toList {α : Type} : Specs α → List α
  | single spec => [spec]
  | group first more => first :: more

/-- The names that a declaration declares, in order, with what they name. -/
def Declaration.declares : Declaration → List (SymbolKind × String)
  | function name => [(.function, name.text)]
  | method _ name => [(.method, name.text)]
  | types specs => specs.toList.map fun spec => (.struct, spec.name.text)
  | vars specs => specs.toList.flatMap fun spec =>
    (spec.first :: spec.more).map fun name => (.variable, name.text)
  | consts specs => specs.toList.flatMap fun spec =>
    (spec.first :: spec.more).map fun (name, _) => (.constant, name.text)

/-! ## Rendering -/

/-- Names or numbers with commas between. -/
def listed (lexeme : String → Lexeme) (first : String) (more : List String) : List Lexeme :=
  lexeme first :: more.flatMap fun w => [.mark ',', .blank ' ', lexeme w]

def Receiver.lexemes (r : Receiver) : List Lexeme :=
  (r.name.elim [] fun name => [.name name.text, .blank ' ']) ++
    (if r.pointer then [.mark '*'] else []) ++ [.name r.type.text]

def TypeSpec.lexemes (spec : TypeSpec) : List Lexeme :=
  .declared .struct spec.name.text :: .blank ' ' ::
    if spec.isAlias then [.mark '=', .blank ' ', .name "int"]
    else [.keyword "struct", .mark '\x7b', .mark '\x7d']

def VarSpec.lexemes (spec : VarSpec) : List Lexeme :=
  listed (.declared .variable) spec.first.text (spec.more.map Identifier.text) ++
    [.blank ' ', .name "int"]

def ConstSpec.lexemes (spec : ConstSpec) : List Lexeme :=
  listed (.declared .constant) spec.first.1.text (spec.more.map fun constant => constant.1.text) ++
    [.blank ' ', .mark '=', .blank ' '] ++
    listed .number spec.first.2.text (spec.more.map fun constant => constant.2.text)

/-- A specification on a line of its own in a group. -/
def lineOf (spec : List Lexeme) : List Lexeme := .blank '\t' :: spec ++ [.lineEnd]

/-- The specifications, on lines in parentheses if it is a group. -/
def Specs.body {α : Type} (lexemes : α → List Lexeme) : Specs α → List Lexeme
  | single spec => lexemes spec
  | group first more => [.mark '(', .lineEnd] ++
    (first :: more).flatMap (fun spec => lineOf (lexemes spec)) ++ [.mark ')']

/-- The specifications after their word. -/
def Specs.lexemes {α : Type} (word : String) (lexemes : α → List Lexeme) (specs : Specs α) :
    List Lexeme :=
  [.keyword word, .blank ' '] ++ specs.body lexemes ++ [.lineEnd]

/-- The body of a function that does nothing. -/
def emptyBody : List Lexeme :=
  [.mark '(', .mark ')', .blank ' ', .mark '\x7b', .mark '\x7d', .lineEnd]

def Declaration.lexemes : Declaration → List Lexeme
  | function name => [.keyword "func", .blank ' ', .declared .function name.text] ++ emptyBody
  | method receiver name => [.keyword "func", .blank ' ', .mark '('] ++ receiver.lexemes ++
    [.mark ')', .blank ' ', .declared .method name.text] ++ emptyBody
  | types specs => specs.lexemes "type" TypeSpec.lexemes
  | vars specs => specs.lexemes "var" VarSpec.lexemes
  | consts specs => specs.lexemes "const" ConstSpec.lexemes

/-- The package clause. -/
def packageClause : List Lexeme := [.keyword "package", .blank ' ', .name "p", .lineEnd]

/-- A file with the declarations. -/
def render (declarations : List Declaration) : List Lexeme :=
  packageClause ++ declarations.flatMap Declaration.lexemes

/-! ## Places -/

/-- The symbol that a lexeme at the place declares. -/
def Lexeme.symbols (path : String) (p : Position) : Lexeme → List Symbol
  | declared kind w => [⟨w, kind, path, p.row + 1, p.column + 1⟩]
  | _ => []

/-- The symbols that lexemes declare, where the first lexeme begins at the place. -/
def symbolsIn (path : String) (p : Position) : List Lexeme → List Symbol
  | [] => []
  | l :: rest => l.symbols path p ++ symbolsIn path (p.through (Utf8.encode l.text)) rest

/-! ## Readability -/

/-- The lexemes can be read in front of others that they do not run into. -/
def Closes (lexemes : List Lexeme) : Prop :=
  ∀ rest, Apart rest → Readable rest → Readable (lexemes ++ rest)

/-- The lexemes can be read in front of any others. -/
def Opens (lexemes : List Lexeme) : Prop := ∀ rest, Readable rest → Readable (lexemes ++ rest)

theorem isFree_int : isFree "int" = true := by decide +kernel

theorem closes_listed (lexeme : String → Lexeme) (first : String) (more : List String)
    (sound : ∀ w ∈ first :: more, (lexeme w).Sound) : Closes (listed lexeme first more) := by
  intro rest apart readable
  unfold listed
  induction more generalizing first with
  | nil => exact ⟨sound first List.mem_cons_self, fun _ => apart, readable⟩
  | cons w more ih =>
    obtain ⟨hfirst, hmore⟩ := List.forall_mem_cons.mp sound
    have onward := ih w hmore
    refine ⟨hfirst, fun _ => apart_mark, ?_⟩
    rw [List.cons_append] at onward
    simp [onward]

theorem isFree_names (first : Identifier) (more : List Identifier) :
    ∀ w ∈ first.text :: more.map Identifier.text, isFree w = true :=
  List.forall_mem_cons.mpr ⟨first.free, List.forall_mem_map.mpr fun name _ => name.free⟩

theorem ConstSpec.isFree_names (spec : ConstSpec) :
    ∀ w ∈ spec.first.1.text :: spec.more.map fun constant => constant.1.text, isFree w = true :=
  List.forall_mem_cons.mpr
    ⟨spec.first.1.free, List.forall_mem_map.mpr fun constant _ => constant.1.free⟩

theorem ConstSpec.integers (spec : ConstSpec) :
    ∀ w ∈ spec.first.2.text :: spec.more.map fun constant => constant.2.text,
      Lexical.integer.accepts w.toList = true :=
  List.forall_mem_cons.mpr
    ⟨spec.first.2.integer, List.forall_mem_map.mpr fun constant _ => constant.2.integer⟩

theorem Receiver.closes (r : Receiver) : Closes r.lexemes := by
  obtain ⟨name, pointer, type⟩ := r
  intro rest apart readable
  cases name <;> cases pointer <;>
    simp [Receiver.lexemes, Identifier.free, apart, readable]

theorem TypeSpec.closes (spec : TypeSpec) : Closes spec.lexemes := by
  obtain ⟨name, isAlias⟩ := spec
  have struct : isWord "struct" = true := by decide +kernel
  intro rest apart readable
  cases isAlias <;> simp [TypeSpec.lexemes, Identifier.free, isFree_int, struct, apart, readable]

theorem VarSpec.closes (spec : VarSpec) : Closes spec.lexemes := by
  intro rest apart readable
  rw [VarSpec.lexemes, List.append_assoc]
  apply closes_listed
  · exact isFree_names spec.first spec.more
  · exact apart_blank
  · simp [isFree_int, apart, readable]

theorem ConstSpec.closes (spec : ConstSpec) : Closes spec.lexemes := by
  intro rest apart readable
  have values := closes_listed .number _ _ spec.integers rest apart readable
  rw [ConstSpec.lexemes, List.append_assoc, List.append_assoc]
  apply closes_listed
  · exact spec.isFree_names
  · exact apart_blank
  · simp [values]

/-- A group is readable if its specifications are. -/
theorem Specs.opens {α : Type} {word : String} (is_word : isWord word = true)
    {lexemes : α → List Lexeme} (closes : ∀ spec, Closes (lexemes spec)) (specs : Specs α) :
    Opens (specs.lexemes word lexemes) := by
  intro rest readable
  cases specs with
  | single spec =>
    have line := closes spec (.lineEnd :: rest) apart_lineEnd (readable_lineEnd.mpr readable)
    simp [Specs.lexemes, Specs.body, is_word, line]
  | group first more =>
    have lines : ∀ specs : List α, Readable (specs.flatMap (fun spec => lineOf (lexemes spec)) ++
        .mark ')' :: .lineEnd :: rest) := by
      intro specs
      induction specs with
      | nil => simp [readable]
      | cons spec specs ih =>
        have line := closes spec (.lineEnd :: _) apart_lineEnd (readable_lineEnd.mpr ih)
        rw [List.flatMap_cons, lineOf, List.append_assoc, List.append_assoc]
        exact readable_blank.mpr ⟨by decide, line⟩
    have inside := lines (first :: more)
    rw [Specs.lexemes, Specs.body]
    simp [-List.flatMap_cons, is_word, inside]

theorem Declaration.opens (d : Declaration) : Opens d.lexemes := by
  have func : isWord "func" = true := by decide +kernel
  intro rest readable
  have body : Readable (emptyBody ++ rest) ∧ Apart (emptyBody ++ rest) := by
    simp [emptyBody, readable]
  cases d with
  | function name => simp [Declaration.lexemes, func, name.free, body]
  | method receiver name =>
    have on := receiver.closes (.mark ')' :: .blank ' ' :: .declared .method name.text ::
      (emptyBody ++ rest)) apart_mark (by simp [name.free, body])
    simp [Declaration.lexemes, func, on]
  | types specs => exact specs.opens (by decide +kernel) TypeSpec.closes rest readable
  | vars specs => exact specs.opens (by decide +kernel) VarSpec.closes rest readable
  | consts specs => exact specs.opens (by decide +kernel) ConstSpec.closes rest readable

/-- **A rendering is readable.** -/
theorem readable_render (declarations : List Declaration) : Readable (render declarations) := by
  have package : isWord "package" = true ∧ isFree "p" = true := by decide +kernel
  have each : Readable (declarations.flatMap Declaration.lexemes) := by
    induction declarations with
    | nil => exact trivial
    | cons d declarations ih => rw [List.flatMap_cons]; exact d.opens _ ih
  simp [render, packageClause, package, each]

end GoWorkbench.Go
