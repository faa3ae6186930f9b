/-
  The grammar of Go, as rules.

  A source is accepted if the rule for it leads to the end of the tokens.  Statements may stand
  beside declarations at file scope, so that fragments of programs are sources too.

  What may follow an expression decides how it is read:

  1. Where a line end may close it (`line`), its parts stand on one line unless they are
     unfinished; between brackets line ends are blank space.
  2. Where a block may follow it (`block`: the headers of `if`, `for`, `switch`), a name before
     `{` is not the type of a composite literal.
  3. Where a send (`send`) or a step (`step`) may follow, `<-`, `++` and `--` are single operators;
     elsewhere their characters are operators of their own, so `a <-b` compares there.

  An operand may be a type on its way to a conversion, an instantiation or a composite literal.
  Read as a type it is unfinished, so it goes on after a line end where the same words read as a
  value would have been closed.
-/
import GoWorkbench.Go.Rule

namespace GoWorkbench.Go

open Rule

/-- What else may begin where an expression begins. -/
inductive Start
  | plain
  /-- An item at file scope: `func (…) name (` begins a method. -/
  | item
  /-- A list of type parameters: after a name comes its constraint. -/
  | typeParameter
deriving DecidableEq, Repr

/-- What may come right after an expression, and what else may begin with it. -/
structure Follow where
  line : Bool := false
  block : Bool := false
  send : Bool := false
  step : Bool := false
  start : Start := .plain
deriving DecidableEq, Repr

namespace Follow

/-- Between brackets, or before a word or mark that no expression can go on with. -/
def inner : Follow := {}

/-- At the end of a statement. -/
def closing : Follow := { line := true }

/-- At the start of a statement. -/
def statement (start : Start) : Follow := { line := true, send := true, step := true, start }

/-- Past the first operand. -/
def onwards (f : Follow) : Follow := { f with start := .plain }

/-- At the start of the header of an `if`, `for` or `switch`. -/
def header : Follow := { block := true, send := true, step := true }

/-- At the end of a header. -/
def beforeBlock : Follow := { block := true }

/-- At the start of a `case` of a `select`. -/
def communication : Follow := { send := true }

end Follow

/-- How a type stands among other things. -/
structure TypePlace where
  /-- A line end may close the type. -/
  line : Bool := false
  /-- An operand may begin where the type begins. -/
  operand : Bool := false
  /-- After a name, brackets may also begin an array type. -/
  array : Bool := false
deriving DecidableEq, Repr

/-- The nonterminals. -/
inductive Part
  -- file scope
  | source | package | importing | importSpec | function | method
  | declaration | constSpec | varSpec | typeSpec
  -- types
  | type (p : TypePlace) | compoundType (p : TypePlace) | constraint (p : TypePlace)
  | typeArguments (operand : Bool) | typeParameters (operand : Bool) | parameters | parameter
  | result (line : Bool) | signature (line : Bool) | structType | interfaceType | structField
  | interfaceElement | pureType
  -- statements
  | block | statements | statement (start : Start) | simpleTail (next last : Follow)
  | ifStatement | forStatement | switchStatement | typeGuard (f : Follow)
  | guarded (f : Follow) | valueClauses | typeClauses | selectStatement | communicationClause
  -- expressions
  | expression (f : Follow) | unary (f : Follow) | primary (f : Follow) | suffix (f : Follow)
  | arguments | specialArguments | index | conversion | instantiation | typeTail (literal : Bool)
  | literal | element

/-- The name of an operand's type or package, which an operand word cannot be. -/
def typeName (operand : Bool) : Rule Part := .token (if operand then .operand else .name)

/-- A sequence of items in which each but the last must be closed. -/
def closed (item : Rule Part) (closers : List Terminal) : Rule Part :=
  .many (.all [item, .any [.terminator, .before closers]])

def brace : Terminal := .marks ['\x7d']
def paren : Terminal := .marks [')']

/-- A name that is declared. -/
def declaredName : Rule Part := .field .name (.leaf .identifier true .name)

/-- Names with commas between. -/
def declaredNames : Rule Part :=
  .all [declaredName, .many (.all [op ",", declaredName])]

/-- Names with commas between, where the commas count among the names and a line end may close
    the list. -/
def declaredNamesAndCommas : Rule Part :=
  .all [declaredName,
    .many (.all [.here, .field .name (.leaf (.other ",") false (.marks [','])), declaredName])]

/-- The other names that Go knows for kinds of nodes are of no interest to declarations. -/
def hidden (name : String) (r : Rule Part) : Rule Part := .node (.other name) (.blind r)

/-- One specification or a parenthesised group of them. -/
def grouped (group : Kind) (spec : Rule Part) (items : Rule Part) : Rule Part :=
  .any [spec, .node group (.all [op "(", items, op ")"])]

/-- A list of expressions. -/
def expressions (f : Follow) : Rule Part :=
  .all [.part (.expression f),
    .many (.all [hereIf f.line, op ",", .part (.expression f.onwards)])]

/-- The assignment operators. -/
def assignment : Rule Part :=
  .any (["=", "+=", "-=", "*=", "/=", "%=", "&=", "|=", "^=", "<<=", ">>=", "&^="].map op)

/-- The binary operators.  Precedence does not change what is accepted. -/
def binaryOperator : Rule Part :=
  .any (["||", "&&", "==", "!=", "<", "<=", ">", ">=", "+", "-", "|", "^", "*", "/", "%", "<<",
    ">>", "&", "&^"].map op)

def unaryOperator : Rule Part := .any (["+", "-", "!", "^", "*", "&", "<-"].map op)

/-- Statements up to the end of a block or a clause. -/
def clauseBody : Rule Part := .part .statements

def lineType : Rule Part := .part (.type { line := true })
def innerType : Rule Part := .part (.type {})

/-- The rules. -/
def grammar : Part → Rule Part
  -- file scope
  | .source =>
    .all [.many (.all [
        .any [.part .package, .part .importing, .part .function, .part .method,
          .part (.statement .item)], .terminator]),
      opt (.any [.part .package, .part .importing, .part .function, .part .method]),
      .finish]
  | .package => hidden "package_clause" (.all [kw "package", .token .name])
  | .importing => hidden "import_declaration" (.all [kw "import",
      .any [.part .importSpec,
        .all [op "(", closed (.part .importSpec) [paren], op ")"]]])
  | .importSpec => .all [opt (.any [op ".", .token .name]), .token .text]
  | .function => .node .functionDeclaration (.all [kw "func", declaredName,
      opt (.part (.typeParameters false)), .part .parameters,
      opt (.all [.here, .part (.result true)]),
      opt (.all [.here, .part .block])])
  | .method => .node .methodDeclaration (.all [kw "func", .part .parameters, declaredName,
      .part .parameters, opt (.all [.here, .part (.result true)]),
      opt (.all [.here, .part .block])])
  | .declaration => .any [
      .node .constDeclaration (.all [kw "const", grouped .constSpecList (.part .constSpec)
        (.many (.all [.part .constSpec, .terminator]))]),
      .node .varDeclaration (.all [kw "var", grouped .varSpecList (.part .varSpec)
        (.many (.all [.part .varSpec, .terminator]))]),
      .node .typeDeclaration (.all [kw "type", grouped .typeSpecList (.part .typeSpec)
        (closed (.part .typeSpec) [paren])])]
  | .constSpec => .node .constSpec (.all [declaredNamesAndCommas,
      opt (.blind (.all [.here, opt innerType, op "=", expressions .closing]))])
  | .varSpec => .node .varSpec (.all [declaredNames, .blind (.any [
      .all [lineType, opt (.all [.here, op "=", expressions .closing])],
      .all [op "=", expressions .closing]])])
  | .typeSpec => .any [
      .node .typeAlias (.all [declaredName, .blind (.all [
        opt (.part (.typeParameters true)), op "=", lineType])]),
      .node .typeSpec (.all [declaredName, .blind (.any [
        .all [.part (.typeParameters true), lineType],
        .all [op "[", .part (.expression { start := .typeParameter }), op "]", lineType],
        .all [.unless (.all [op "[", .unless (op "]")]), lineType]])])]
  -- types
  | .type p => .any [
      typeName p.operand,
      .part (.compoundType p),
      .all [op "(", .part (.type { operand := p.operand }), op ")"]]
  | .compoundType p => .any [
      .all [typeName p.operand, hereIf p.line, op ".", .token .name,
        opt (.all [hereIf p.line, .part (.typeArguments false)])],
      .all [typeName p.operand, hereIf p.line, .part (.typeArguments p.array)],
      .all [op "*", .part (.type { line := p.line, operand := p.operand })],
      .all [op "~", .part (.type { line := p.line }),
        opt (.all [hereIf p.line, .part (.typeArguments false)])],
      .all [op "[", .part (.expression .inner), op "]", .part (.type { line := p.line })],
      .all [op "[", op "]", .part (.type { line := p.line })],
      .all [kw "map", op "[", innerType, op "]", .part (.type { line := p.line })],
      .all [kw "chan", opt (op "<-"), .part (.type { line := p.line })],
      .all [op "<-", kw "chan", .part (.type { line := p.line })],
      .all [kw "func", .part (.signature p.line)],
      .part .structType,
      .part .interfaceType]
  | .constraint p =>
    .all [.part (.type p), .many (.all [hereIf p.line, op "|", .part (.type { line := p.line })])]
  | .typeArguments operand => .all [op "[", .part (.constraint { operand }),
      .many (.all [op ",", .part (.constraint {})]), opt (op ","), op "]"]
  | .typeParameters operand => .all [op "[", .blind (.all [
      .all [typeName operand, .many (.all [op ",", .token .name]), .part (.constraint {})],
      .many (.all [op ",", listed (.token .name), .part (.constraint {})]),
      opt (op ",")]), op "]"]
  | .parameters => .all [op "(",
      opt (listed (.part .parameter)), opt (op ","), op ")"]
  | .parameter => .any [
      .part (.type { array := true }),
      .all [.token .name, innerType],
      .all [opt (.token .name), op "...", innerType]]
  | .result line => .any [
      .part .parameters,
      .token .name,
      .part (.compoundType { line })]
  | .signature line => .all [.part .parameters, .any [
      .all [hereIf line, .part (.result line)],
      without line ["(", "["]]]
  | .structType => .all [kw "struct", op "\x7b", closed (.part .structField) [brace], op "\x7d"]
  | .structField => .all [
      .any [
        .all [.token .name, .here, lineType],
        .all [.token .name, .here, op ",", listed (.token .name), lineType],
        .all [opt (op "*"), .token .name, opt (.all [.here, op ".", .token .name])],
        .all [opt (op "*"), .token .name, .here, op ".", .token .name, .here,
          .part (.typeArguments false)],
        .all [op "*", .token .name, .here, .part (.typeArguments false)],
        .all [opt (op "*"), op "~", innerType, .part (.typeArguments false)],
        .all [.token .name, .here, .part (.typeArguments true)]],
      opt (.all [.here, .token .text])]
  | .interfaceType =>
    .all [kw "interface", op "\x7b", closed (.part .interfaceElement) [brace], op "\x7d"]
  | .interfaceElement => .any [
      .all [.token .name, .here, .part .parameters, opt (.all [.here, .part (.result true)])],
      .part (.constraint { line := true })]
  | .pureType => .any [
      .all [op "*", .part .pureType],
      .all [op "(", .part .pureType, op ")"],
      .all [op "~", innerType, opt (.part (.typeArguments false))],
      .all [op "[", .part (.expression .inner), op "]", innerType],
      .all [op "[", op "]", innerType],
      .all [kw "map", op "[", innerType, op "]", innerType],
      .all [kw "chan", opt (op "<-"), innerType],
      .all [op "<-", kw "chan", innerType],
      .all [kw "func", .part (.signature false)],
      .part .structType,
      .part .interfaceType,
      .all [typeName true, opt (.all [op ".", .token .name]), .part (.typeArguments false)]]
  -- statements
  | .block => hidden "block" (.all [op "\x7b", .part .statements, op "\x7d"])
  | .statements => .all [
      .many (.all [.part (.statement .plain),
        .any [.terminator, .before [brace, .word "case", .word "default"]]]),
      opt (.all [.token .operand, .here, op ":"])]
  | .statement start => .any [
      .part .declaration,
      hidden "statement" (.any [
        .all [.part (.expression (.statement start)),
          .part (.simpleTail .inner .closing)],
        .all [kw "return", opt (.all [.here, expressions .closing])],
        .all [kw "go", .part (.expression .closing)],
        .all [kw "defer", .part (.expression .closing)],
        .all [kw "break", opt (.all [.here, .token .name])],
        .all [kw "continue", opt (.all [.here, .token .name])],
        .all [kw "goto", .token .name],
        kw "fallthrough",
        op ";",
        .part .block,
        .all [.token .operand, .here, op ":", .part (.statement .plain)],
        .part .ifStatement,
        .part .forStatement,
        .part .switchStatement,
        .part .selectStatement])]
  | .simpleTail next last => .any [
      .all [],
      .all [hereIf last.line, op "<-", .part (.expression last)],
      .all [hereIf last.line, .any [op "++", op "--"]],
      .all [hereIf last.line, .any [assignment, op ":="], expressions last],
      .all [hereIf last.line, op ",", expressions next, .any [assignment, op ":="],
        expressions last]]
  | .ifStatement => .all [kw "if", .part (.expression .header),
      opt (.all [.part (.simpleTail .inner .inner), op ";", .part (.expression .beforeBlock)]),
      .part .block,
      opt (.all [.here, kw "else", .any [.part .block, .part .ifStatement]])]
  | .forStatement => .all [kw "for",
      .any [
        .all [],
        .all [.part (.expression .header), .any [
          .all [],
          .all [.part (.simpleTail .inner .inner), op ";", opt (.part (.expression .inner)),
            op ";", opt (.all [.part (.expression .header),
              .part (.simpleTail .inner .beforeBlock)])],
          .all [opt (.all [op ",", expressions .inner]), .any [op "=", op ":="], kw "range",
            .part (.expression .beforeBlock)]]],
        .all [op ";", opt (.part (.expression .inner)), op ";",
          opt (.all [.part (.expression .header), .part (.simpleTail .inner .beforeBlock)])],
        .all [kw "range", .part (.expression .beforeBlock)]],
      .part .block]
  | .switchStatement => .all [kw "switch", .any [
      .part .valueClauses,
      .all [.part (.typeGuard .header), .part .typeClauses],
      .all [.part (.expression .header), .any [
        .part .valueClauses,
        .all [.part (.simpleTail .inner .inner), op ";", .any [
          .part .valueClauses,
          .all [.part (.typeGuard .beforeBlock), .part .typeClauses],
          .all [.part (.expression .beforeBlock), .part .valueClauses]]]]]]]
  | .typeGuard f => .all [
      .any [
        .part (.guarded f),
        .all [.part (.expression f), opt (.all [op ",", expressions .inner]), op ":=",
          .part (.guarded .inner)]],
      op ".", op "(", kw "type", op ")"]
  | .guarded f => .any [
      .part (.primary f),
      .all [
        .any [.all [op "*", innerType], .all [op "<-", kw "chan", innerType]],
        .part .conversion,
        .many (.part (.suffix f))]]
  | .valueClauses => .all [op "\x7b", .many (.all [
      .any [.all [kw "case", expressions .inner], kw "default"], op ":", clauseBody]), op "\x7d"]
  | .typeClauses => .all [op "\x7b", .many (.all [
      .any [.all [kw "case", listed innerType], kw "default"], op ":", clauseBody]), op "\x7d"]
  | .selectStatement => .all [kw "select", op "\x7b", .many (.all [
      .any [.part .communicationClause, kw "default"], op ":", clauseBody]), op "\x7d"]
  | .communicationClause => .all [kw "case", .part (.expression .communication), .any [
      .all [],
      .all [op "<-", .part (.expression .inner)],
      .all [opt (.all [op ",", expressions .inner]), .any [op "=", op ":="],
        .part (.expression .inner)]]]
  -- expressions
  | .expression f => .all [.part (.unary f), .many (.all [
      hereIf f.line,
      without false ((if f.send then ["<-"] else []) ++ (if f.step then ["++", "--"] else [])),
      binaryOperator, .part (.unary f.onwards)])]
  | .unary f => .any [
      .part (.primary f),
      .all [unaryOperator, .part (.unary f.onwards)]]
  | .primary f => .all [
      .any [
        .token .number, .token .text, .token .rune,
        kw "nil", kw "true", kw "false", kw "iota",
        .all [.any [kw "new", kw "make"], .any [
          .all [hereIf f.line, .part .specialArguments],
          without f.line ["("]]],
        .all [.token .operand,
          if f.start = .typeParameter then .unless (op "<-") else .all []],
        .all [.token .operand, hereIf f.line, .any [
          if f.block then never else .part .literal,
          .part .instantiation,
          .all [.part (.typeArguments (f.start = .typeParameter)), .part (.typeTail true)],
          .all [op ".", .token .name, .any [
            .all [.away, .part .conversion],
            .part .literal,
            .part .instantiation,
            .all [.part (.typeArguments false), .part (.typeTail true)]]]]],
        .all [op "(", .part (.expression .inner), op ")"],
        .all [op "(", .part .pureType, op ")", .part (.typeTail false)],
        .all [op "(", .part (.type { operand := true }), op ")", .any [
          if f.line then .all [.away, .part .conversion] else never,
          .part .instantiation]],
        .all [kw "func", .part .parameters, opt (.part (.result false)), .part .block],
        .all [kw "func", .part .parameters,
          if f.start = .item then .any [.part .parameters, .part (.compoundType {})]
          else .part (.result false),
          .part .conversion],
        .all [kw "func", .part .parameters, .part (.result false), .part .instantiation],
        .all [op "[", op "]", innerType, .part (.typeTail true)],
        .all [op "[", .part (.expression .inner), op "]", innerType, .part (.typeTail true)],
        .all [op "[", op "...", op "]", innerType, .part .literal],
        .all [kw "map", op "[", innerType, op "]", innerType, .part (.typeTail true)],
        .all [.part .structType, .part (.typeTail true)],
        .all [.part .interfaceType, .part (.typeTail false)],
        .all [kw "chan", opt (op "<-"), innerType, .part (.typeTail false)],
        .all [op "~", innerType, .any [
          .part (.typeTail false),
          .all [.part (.typeArguments false), .part (.typeTail true)]]]],
      .many (.all [hereIf f.line, .part (.suffix f)])]
  | .suffix _ => .any [
      .all [op ".", .any [.token .name, .all [op "(", innerType, op ")"]]],
      .part .arguments,
      .all [op "[", .part .index],
      .all [.part (.typeArguments true), .part .arguments]]
  | .arguments => .all [op "(", opt (.all [
      listed (.all [.part (.expression .inner), opt (op "...")]), opt (op ",")]), op ")"]
  | .specialArguments => .all [op "(", opt (.all [innerType,
      .many (.all [op ",", .part (.expression .inner)]), opt (op ",")]), op ")"]
  | .index =>
    let slice : Rule Part := .all [op ":", .any [
      op "]",
      .all [.part (.expression .inner), .any [
        op "]",
        .all [op ":", .part (.expression .inner), op "]"]]]]]
    .any [slice, .all [.part (.expression .inner), .any [op "]", slice]]]
  | .conversion => .all [op "(", .part (.expression .inner), opt (op ","), op ")"]
  | .instantiation => .all [op "[", listed innerType, opt (op ","), op "]"]
  | .typeTail literal => .any [
      if literal then .part .literal else never,
      .part .conversion,
      .part .instantiation]
  | .literal => .all [op "\x7b", opt (listed (.part .element)), opt (op ","), op "\x7d"]
  | .element =>
    let side : Rule Part := .any [.part (.expression .inner), .part .literal]
    .all [side, opt (.all [op ":", side])]

/-- Enough depth for rules within rules over `n` tokens. -/
def depth (n : Nat) : Nat := 64 * (n + 4)

/-- The nodes at file scope, in order, if the tokens are a source. -/
def itemsOf (tokens : List Token) : Option (List Node) :=
  match (Rule.part Part.source).follow grammar (depth tokens.length) ⟨[], tokens⟩ with
  | [] => none
  | s :: _ => some s.nodes.reverse

/-- The syntax tree of a source.  A source outside the grammar is one error. -/
def parse (source : List UInt8) : Node :=
  match itemsOf (tokens source) with
  | some items => .mk { kind := .sourceFile } items
  | none => .mk { kind := .sourceFile, error := true } []

end GoWorkbench.Go
