/-
  Grammar rules as data, and one function that follows them.

  A rule is followed from a *state*: the nodes built so far and the tokens that are left.  Since a
  grammar may be ambiguous for a while, following a rule gives all states it can lead to, at most
  one for each amount of tokens left.

  Line ends need care.  A line end is blank space wherever the grammar cannot end a statement,
  and it does end the statement wherever the grammar can.  So a terminal passes over line ends,
  and a rule that may stop at some point, in a place where a line end may close what contains it,
  says `here` before it goes on: what comes next must stand on the same line.
-/
import GoWorkbench.Go.Tree

namespace GoWorkbench.Go

/-! ## Terminals -/

/-- The words that are operands wherever an operand may begin, and plain names elsewhere. -/
def operandWords : List String := ["nil", "true", "false", "iota", "new", "make"]

inductive Terminal
  /-- A given word. -/
  | word (w : String)
  /-- Any word that is not reserved. -/
  | name
  /-- A name where an operand may begin. -/
  | operand
  | number
  | text
  | rune
  /-- Marks that directly follow each other. -/
  | marks (s : List Char)
deriving DecidableEq, Repr

/-- Line ends in front are passed over. -/
def passLineEnds : List Token → List Token
  | [] => []
  | t :: rest => if t.shape = .lineEnd then passLineEnds rest else t :: rest

/-- The tokens after `s`, if they start with its marks, joined to what is before. -/
def joinedMarks : List Char → List Token → Option (List Token)
  | [], tokens => some tokens
  | c :: s, t :: rest => if t.shape = .mark c && t.joined then joinedMarks s rest else none
  | _ :: _, [] => none

/-- The first token and what is left after the terminal, if it comes next. -/
def Terminal.here (t : Terminal) : List Token → Option (Token × List Token)
  | [] => none
  | token :: rest => match t, token.shape with
    | .word w, .word v => if v = w then some (token, rest) else none
    | .name, .word v => if v ∈ keywords then none else some (token, rest)
    | .operand, .word v => if v ∈ keywords || v ∈ operandWords then none else some (token, rest)
    | .number, .number => some (token, rest)
    | .text, .text => some (token, rest)
    | .rune, .rune => some (token, rest)
    | .marks (c :: s), .mark d =>
      if c = d then (joinedMarks s rest).map (token, ·) else none
    | _, _ => none

/-- The same after any line ends. -/
def Terminal.take (t : Terminal) (tokens : List Token) : Option (Token × List Token) :=
  t.here (passLineEnds tokens)

/-! ## Rules -/

/-- Rules over the nonterminals `ν`. -/
inductive Rule (ν : Type)
  /-- A terminal, which leaves no node. -/
  | token (t : Terminal)
  /-- A terminal that becomes a leaf. -/
  | leaf (kind : Kind) (named : Bool) (t : Terminal)
  /-- One rule after the other. -/
  | all (rs : List (Rule ν))
  /-- Any of the rules. -/
  | any (rs : List (Rule ν))
  /-- The rule as often as it can be followed. -/
  | many (r : Rule ν)
  /-- The nonterminal. -/
  | part (n : ν)
  /-- What the rule builds becomes one node. -/
  | node (kind : Kind) (r : Rule ν)
  /-- The nodes that the rule builds get the role. -/
  | field (f : Field) (r : Rule ν)
  /-- What the rule builds is of no interest. -/
  | blind (r : Rule ν)
  /-- The end of a statement: a line end, a semicolon or a NUL. -/
  | terminator
  /-- No line end comes next. -/
  | here
  /-- A line end comes next. -/
  | away
  /-- One of the terminals comes next, on the same line. -/
  | before (ts : List Terminal)
  /-- The rule cannot be followed here. -/
  | unless (r : Rule ν)
  /-- Only line ends are left. -/
  | finish

/-- Nodes built so far, the latest first, and the tokens that are left. -/
structure State where
  nodes : List Node
  rest : List Token

/-- States with the same tokens left are alike: of two, the first is kept. -/
def State.place (s : State) : Option Nat := s.rest.head?.map Token.offset

/-- Drops every state that is like an earlier one. -/
def distinct : List State → List State
  | [] => []
  | [s] => [s]
  | s :: rest => s :: (distinct rest).filter fun t => t.place != s.place

/-- The state comes before the other in the source. -/
def State.isBefore (s t : State) : Bool :=
  match s.place, t.place with
  | some a, some b => a < b
  | some _, none => true
  | none, _ => false

/-- Adds a state to a list in source order, unless one like it is there. -/
def insertState (s : State) : List State → List State
  | [] => [s]
  | t :: rest =>
    if s.place = t.place then t :: rest
    else if s.isBefore t then s :: t :: rest
    else t :: insertState s rest

/-- Repeats a step from the earliest state pending until nothing more can be followed; a state
    from which the step leads nowhere is an end.  Each round settles one place in the source. -/
def saturate (step : State → List State) : Nat → List State → List State
  | 0, _ => []
  | _ + 1, [] => []
  | n + 1, s :: pending =>
    match step s with
    | [] => s :: saturate step n pending
    | next => saturate step n (next.foldl (fun states t => insertState t states) pending)

/-- The terminator at the head of the tokens is cut off. -/
def passTerminator : List Token → Option (List Token)
  | [] => none
  | t :: rest => if t.shape ∈ [.lineEnd, .nul, .mark ';'] then some rest else none

/-- A line end comes next. -/
def atLineEnd (tokens : List Token) : Bool := tokens.head?.map Token.shape = some .lineEnd

/-- The place of the next token after line ends. -/
def nextStart (tokens : List Token) : Position :=
  match passLineEnds tokens with
  | [] => ⟨0, 0⟩
  | t :: _ => t.start

/-- The text of a leaf. -/
def Token.name (t : Token) : String :=
  match t.shape with
  | .word w => w
  | .mark c => c.toString
  | _ => ""

/-- The states that a rule leads to.  The first argument bounds the depth of rules within rules. -/
def Rule.follow {ν : Type} (grammar : ν → Rule ν) : Nat → Rule ν → State → List State
  | 0, _, _ => []
  | n + 1, r, s => match r with
    | .token t => match t.take s.rest with
      | some (_, rest) => [{ s with rest }]
      | none => []
    | .leaf kind named t => match t.take s.rest with
      | some (first, rest) =>
        [⟨.mk { kind, named, text := first.name, start := first.start } [] :: s.nodes, rest⟩]
      | none => []
    | .all rs => rs.foldl (fun states r => distinct (states.flatMap (follow grammar n r))) [s]
    | .any rs => distinct (rs.flatMap fun r => follow grammar n r s)
    | .many r => saturate (follow grammar n r) n [s]
    | .part p => follow grammar n (grammar p) s
    | .node kind r => (follow grammar n r ⟨[], s.rest⟩).map fun t =>
      ⟨.mk { kind, start := nextStart s.rest } t.nodes.reverse :: s.nodes, t.rest⟩
    | .field f r => (follow grammar n r ⟨[], s.rest⟩).map fun t =>
      ⟨t.nodes.map (Node.withField f) ++ s.nodes, t.rest⟩
    | .blind r => (follow grammar n r ⟨[], s.rest⟩).map fun t => ⟨s.nodes, t.rest⟩
    | .terminator => match passTerminator s.rest with
      | some rest => [{ s with rest }]
      | none => []
    | .here => if atLineEnd s.rest then [] else [s]
    | .away => if atLineEnd s.rest then [s] else []
    | .before ts => if ts.any fun t => (t.here s.rest).isSome then [s] else []
    | .unless r => if (follow grammar n r ⟨[], s.rest⟩).isEmpty then [s] else []
    | .finish => if passLineEnds s.rest = [] then [s] else []

/-! ## Shorthands -/

namespace Rule

variable {ν : Type}

/-- A reserved word. -/
def kw (w : String) : Rule ν := .token (.word w)

/-- An operator or bracket. -/
def op (s : String) : Rule ν := .token (.marks s.toList)

/-- The rule or nothing. -/
def opt (r : Rule ν) : Rule ν := .any [r, .all []]

/-- `r` several times with commas between. -/
def listed (r : Rule ν) : Rule ν := .all [r, .many (.all [op ",", r])]

/-- The rule that is never followed. -/
def never : Rule ν := .any []

/-- What comes next stands on the same line if a line end would close it. -/
def hereIf (line : Bool) : Rule ν := if line then .here else .all []

/-- None of the operators comes next; a line end keeps them away where it closes what is before. -/
def without (line : Bool) (ops : List String) : Rule ν :=
  .any [if line then .away else never, .unless (.any (ops.map op))]

end Rule

end GoWorkbench.Go
