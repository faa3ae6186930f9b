/-
  Regular patterns over characters, matched by sets of what is left to match.

  A pattern is data.  Reading a character turns a pattern into the list of patterns that may
  match the rest (its partial derivatives); a text is read by keeping the list of all patterns
  that are still alive.  That list never holds one pattern twice and is never longer than the
  pattern is large, so matching needs neither backtracking nor a bound on steps.

  * `accepts`  — does the whole text match?
  * `longest?` — the length of the longest beginning of the text that matches.
  * `occursIn` — does some part of the text match?
-/
namespace GoWorkbench

/-- A set of characters: ranges, or everything outside the ranges. -/
structure CharSet where
  inverted : Bool
  ranges : List (Char × Char)
deriving DecidableEq, Repr

namespace CharSet

/-- Exactly the characters listed. -/
def of (cs : List Char) : CharSet := ⟨false, cs.map fun c => (c, c)⟩

/-- Everything but the characters listed. -/
def except (cs : List Char) : CharSet := ⟨true, cs.map fun c => (c, c)⟩

/-- The characters from `low` to `high`. -/
def range (low high : Char) : CharSet := ⟨false, [(low, high)]⟩

/-- `c` belongs to the set. -/
def contains (s : CharSet) (c : Char) : Bool :=
  (s.ranges.any fun (low, high) => low ≤ c && c ≤ high) != s.inverted

end CharSet

inductive Pattern
  | empty
  | one (set : CharSet)
  | seq (a b : Pattern)
  | either (a b : Pattern)
  | star (a : Pattern)
deriving DecidableEq, Repr

namespace Pattern

/-! ## Building patterns -/

/-- One given character. -/
def char (c : Char) : Pattern := .one (.of [c])

/-- Any one of the characters. -/
def anyOf (cs : String) : Pattern := .one (.of cs.toList)

/-- Any character but these. -/
def noneOf (cs : String) : Pattern := .one (.except cs.toList)

/-- One pattern after the other. -/
def all : List Pattern → Pattern
  | [] => .empty
  | [p] => p
  | p :: rest => .seq p (all rest)

/-- One pattern out of several; at least one is given. -/
def any (first : Pattern) : List Pattern → Pattern
  | [] => first
  | p :: rest => .either first (any p rest)

/-- The characters of a word in order. -/
def word (s : String) : Pattern := all (s.toList.map char)

/-- At most once. -/
def opt (p : Pattern) : Pattern := .either p .empty

/-- At least once. -/
def plus (p : Pattern) : Pattern := .seq p (.star p)

/-- Exactly `n` times. -/
def times (n : Nat) (p : Pattern) : Pattern := all (List.replicate n p)

/-! ## Matching -/

/-- The pattern matches the empty text. -/
def nullable : Pattern → Bool
  | .empty => true
  | .one _ => false
  | .seq a b => a.nullable && b.nullable
  | .either a b => a.nullable || b.nullable
  | .star _ => true

/-- One pattern after another, where matching nothing leaves no trace. -/
def followedBy (p q : Pattern) : Pattern := if p = .empty then q else .seq p q

/-- The patterns that may match what comes after `c`. -/
def partials (c : Char) : Pattern → List Pattern
  | .empty => []
  | .one set => if set.contains c then [.empty] else []
  | .seq a b =>
    let rest := (a.partials c).map (followedBy · b)
    if a.nullable then rest ++ b.partials c else rest
  | .either a b => a.partials c ++ b.partials c
  | .star a => (a.partials c).map (followedBy · (.star a))

/-- One character is read by all patterns that are alive. -/
def step (alive : List Pattern) (c : Char) : List Pattern :=
  (alive.flatMap (partials c)).eraseDups

/-- The patterns that are alive after a text. -/
def after (alive : List Pattern) (text : List Char) : List Pattern := text.foldl step alive

/-- The whole text matches. -/
def accepts (p : Pattern) (text : List Char) : Bool := (after [p] text).any nullable

/-- The length of the longest beginning of the text that some pattern alive matches; `best` is
    the answer so far and `read` the number of characters read.  The text may be made of anything
    that shows a character. -/
def longestFrom {α : Type} (char : α → Char) (alive : List Pattern) (read : Nat)
    (best : Option Nat) : List α → Option Nat
  | [] => if alive.any nullable then some read else best
  | c :: rest =>
    let best := if alive.any nullable then some read else best
    match step alive (char c) with
    | [] => best
    | alive => longestFrom char alive (read + 1) best rest

/-- The length of the longest beginning of the text that matches. -/
def longest? {α : Type} (char : α → Char) (p : Pattern) (text : List α) : Option Nat :=
  longestFrom char [p] 0 none text

/-- Some beginning of the text matches. -/
def matchesFront (p : Pattern) (text : List Char) : Bool := (p.longest? id text).isSome

/-- Some part of the text matches. -/
def occursIn (p : Pattern) : List Char → Bool
  | [] => p.nullable
  | c :: rest => p.matchesFront (c :: rest) || p.occursIn rest

end Pattern

end GoWorkbench
