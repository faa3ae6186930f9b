/-
  Reading TOML.

  A document is a row of statements, one to a line: a header, a header of a new list element, or
  a key with its value; each may be followed by a comment.  Lists may go over several lines,
  tables written in place may not.

  The readers of values take fuel, which is never used up: each step takes a character away, and
  there is as much fuel as there are characters.
-/
import GoWorkbench.Text.Utf8
import GoWorkbench.Toml.Document
import GoWorkbench.Toml.Scalar

namespace GoWorkbench.Toml

/-! ## Blanks and comments -/

def isBlank (c : Char) : Bool := c == ' ' || c == '\t'

/-- What follows the blanks. -/
def dropBlanks (cs : List Char) : List Char := cs.dropWhile isBlank

/-- What follows a comment, if one stands at the front: the end of its line. -/
def dropComment : List Char → Except Fault (List Char)
  | '#' :: rest =>
    if (rest.takeWhile (· ≠ '\n')).any isControl then .error .malformed
    else .ok (rest.dropWhile (· ≠ '\n'))
  | cs => .ok cs

/-- What follows blanks, line ends and comments; `comment` says that a comment is being read. -/
def dropLines (comment : Bool) : List Char → Except Fault (List Char)
  | [] => .ok []
  | c :: rest =>
    if c = '\n' then dropLines false rest
    else if comment then if isControl c then .error .malformed else dropLines true rest
    else if isBlank c then dropLines false rest
    else if c = '#' then dropLines true rest
    else .ok (c :: rest)

/-! ## Keys -/

/-- The characters of a key without quotes. -/
def isBare (c : Char) : Bool := c.isAlphanum || c == '-' || c == '_'

/-- One part of a key. -/
def keyPart : List Char → Except Fault (String × List Char)
  | '\'' :: rest => (literalFrom [] rest).map fun (s, rest) => (.ofList s, rest)
  | '"' :: rest => (basicFrom false .no [] rest).map fun (s, rest) => (.ofList s, rest)
  | cs =>
    if (cs.takeWhile isBare).isEmpty then .error .malformed
    else .ok (.ofList (cs.takeWhile isBare), cs.dropWhile isBare)

/-- The parts of a key with dots between, and what follows the blanks after it. -/
def keyParts : Nat → List Char → Except Fault (Key × List Char)
  | 0, _ => .error .malformed
  | fuel + 1, cs => do
    let (part, rest) ← keyPart cs
    match dropBlanks rest with
    | '.' :: rest =>
      let (parts, rest) ← keyParts fuel (dropBlanks rest)
      return (part :: parts, rest)
    | rest => return ([part], rest)

def key (cs : List Char) : Except Fault (Key × List Char) := keyParts (cs.length + 1) cs

/-! ## Values -/

mutual

/-- A value. -/
def value : Nat → List Char → Except Fault (Value × List Char)
  | 0, _ => .error .malformed
  | fuel + 1, cs => match cs with
    | '[' :: rest => do
      match ← dropLines false rest with
      | ']' :: rest => return (.list [], rest)
      | rest =>
        let (items, rest) ← items fuel rest
        return (.list items, rest)
    | '{' :: rest => match dropBlanks rest with
      | '}' :: rest => .ok (.table [], rest)
      | rest => pairs fuel {} rest
    | cs => match text? cs with
      | some reading => reading.map fun (s, rest) => (.text (.ofList s), rest)
      | none => plain cs

/-- The items of a list, with its end. -/
def items : Nat → List Char → Except Fault (List Value × List Char)
  | 0, _ => .error .malformed
  | fuel + 1, cs => do
    let (v, rest) ← value fuel cs
    match ← dropLines false rest with
    | ']' :: rest => return ([v], rest)
    | ',' :: rest => match ← dropLines false rest with
      | ']' :: rest => return ([v], rest)
      | rest =>
        let (vs, rest) ← items fuel rest
        return (v :: vs, rest)
    | _ => .error .malformed

/-- The entries of a table written in place, with its end. -/
def pairs : Nat → Document → List Char → Except Fault (Value × List Char)
  | 0, _, _ => .error .malformed
  | fuel + 1, d, cs => do
    let (k, rest) ← key cs
    match rest with
    | '=' :: rest =>
      let (v, rest) ← value fuel (dropBlanks rest)
      match d.addInline k v with
      | none => .error .malformed
      | some d => match dropBlanks rest with
        | '}' :: rest => return (.table d.entries, rest)
        | ',' :: rest => pairs fuel d (dropBlanks rest)
        | _ => .error .malformed
    | _ => .error .malformed

end

/-! ## Statements -/

/-- A document that a statement did not fit into is malformed. -/
def fitted (d : Option Document) : Except Fault Document :=
  match d with
  | some d => .ok d
  | none => .error .malformed

/-- One statement, with what follows it. -/
def statement (d : Document) (cs : List Char) : Except Fault (Document × List Char) :=
  match cs with
  | '[' :: '[' :: rest => do
    let (k, rest) ← key (dropBlanks rest)
    let d ← fitted (d.openElement k)
    match rest with
    | ']' :: ']' :: rest => return (d, rest)
    | _ => .error .malformed
  | '[' :: rest => do
    let (k, rest) ← key (dropBlanks rest)
    let d ← fitted (d.openTable k)
    match rest with
    | ']' :: rest => return (d, rest)
    | _ => .error .malformed
  | cs => do
    let (k, rest) ← key cs
    match rest with
    | '=' :: rest =>
      let (v, rest) ← value (cs.length + 1) (dropBlanks rest)
      let d ← fitted (d.add k v)
      return (d, rest)
    | _ => .error .malformed

/-- All statements. -/
def statements : Nat → Document → List Char → Except Fault Document
  | 0, _, _ => .error .malformed
  | fuel + 1, d, cs => match dropBlanks cs with
    | [] => .ok d
    | '\n' :: rest => statements fuel d rest
    | cs => do
      let (d, rest) ← if cs.head? = some '#' then pure (d, cs) else statement d cs
      match ← dropComment (dropBlanks rest) with
      | [] => return d
      | '\n' :: rest => statements fuel d rest
      | _ => .error .malformed

/-- Line ends of two characters become one. -/
def joinLineEnds : List Char → List Char
  | '\r' :: '\n' :: rest => '\n' :: joinLineEnds rest
  | c :: rest => c :: joinLineEnds rest
  | [] => []

/-- The table that a text stands for. -/
def read (text : List Char) : Except Fault Entries :=
  let text := joinLineEnds text
  (statements (text.length + 1) {} text).map (·.entries)

end GoWorkbench.Toml
