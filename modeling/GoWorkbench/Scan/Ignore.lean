/-
  Rules for ignored files.

  A line of the file is a rule, unless it is blank or a comment.  `!` in front turns the rule
  around.  In a rule, `*` and `?` stand for characters other than a slash and `**` for anything;
  a class stands in brackets.  A rule with a slash anywhere but at its end is anchored: it
  matches from the root of the tree, others after any slash.  A slash at the end asks for a
  directory.

  A rule is first written as an expression and then matched against the path of a file from the
  root.  Only files are matched, never directories, so a rule that names a directory and has no
  slash at its end ignores nothing in it.

  A rule whose expression is malformed is a failure only once it is matched.
-/
import GoWorkbench.Failure
import GoWorkbench.Scan.Expression

namespace GoWorkbench.Scan

open GoWorkbench.Text

structure IgnoreRule where
  /-- What the rule matches is not ignored. -/
  negated : Bool
  /-- The paths that the rule matches, if its expression is well formed. -/
  paths : Option Pattern
deriving DecidableEq, Repr

/-! ## Rows of asterisks -/

/-- A row of asterisks after anything but a slash is one asterisk. -/
def squeezeAfter (skip : Nat) : List Char → List Char
  | [] => []
  | c :: rest => match skip with
    | skip + 1 => squeezeAfter skip rest
    | 0 =>
      let stars := (rest.takeWhile (· == '*')).length
      if c ≠ '/' && 2 ≤ stars then c :: '*' :: squeezeAfter stars rest
      else c :: squeezeAfter 0 rest

/-- A row of asterisks before anything but a slash is one asterisk; before a slash, or at the
    end, a row of more than two is two. -/
def squeezeBefore (skip : Nat) : List Char → List Char
  | [] => []
  | c :: rest => match skip with
    | skip + 1 => squeezeBefore skip rest
    | 0 =>
      let stars := ((c :: rest).takeWhile (· == '*')).length
      if stars < 2 then c :: squeezeBefore 0 rest
      else match ((c :: rest).drop stars).head? with
        | some d =>
          if d ≠ '/' then '*' :: d :: squeezeBefore stars rest
          else if 3 ≤ stars then '*' :: '*' :: squeezeBefore (stars - 1) rest
          else c :: squeezeBefore 0 rest
        | none =>
          if 3 ≤ stars then '*' :: '*' :: squeezeBefore (stars - 1) rest
          else c :: squeezeBefore 0 rest

/-! ## Writing the expression -/

/-- The first character of what is left of a rule. -/
def first : List Char → Except RuleFault Char
  | [] => .error .tooShort
  | c :: _ => .ok c

/-- What is left of a rule without a slash in front. -/
def dropSlash (rule : List Char) : Except RuleFault (List Char) :=
  (first rule).map fun c => if c = '/' then rule.drop 1 else rule

/-- Takes the spaces at the end of a rule away, where the rule is read backwards.  A space after
    a backslash stays, and so do those before it; its backslash goes.  The first two characters
    always stay. -/
def trimSpaces (strip : Bool) (kept : List Char) : List Char → List Char
  | ' ' :: '\\' :: c :: rest => trimSpaces false (' ' :: kept) (c :: rest)
  | ' ' :: d :: c :: rest =>
    if strip then trimSpaces true kept (d :: c :: rest)
    else trimSpaces false (' ' :: kept) (d :: c :: rest)
  | backwards => backwards.reverse ++ kept

/-- What stands in the brackets that `rest` follows the opening one of, if they are closed. -/
def bracketed? (rest : List Char) : Option (List Char) :=
  let (bang, rest) := match rest with
    | '!' :: rest => (['!'], rest)
    | rest => ([], rest)
  let (bracket, rest) := match rest with
    | ']' :: rest => ([']'], rest)
    | rest => ([], rest)
  if ']' ∈ rest then some (bang ++ bracket ++ rest.takeWhile (· ≠ ']')) else none

/-- The class of what stands in brackets: a backslash stands for itself, a slash is left out,
    and `!` in front inverts. -/
def classSigns (content : List Char) : Except RuleFault (List Sign) :=
  let sign := fun c : Char => (⟨c, c == '\\'⟩ : Sign)
  match content.filter (· ≠ '/') with
  | [] => .error .tooShort
  | c :: rest =>
    let front : Sign :=
      if c = '!' then ⟨'^', false⟩ else if c = '^' then ⟨'^', true⟩ else sign c
    .ok (⟨'[', false⟩ :: front :: rest.map sign ++ [⟨']', false⟩])

/-- The expression of what is left of a rule; `skip` characters have been dealt with. -/
def ruleSigns (skip : Nat) : List Char → Except RuleFault (List Sign)
  | [] => .ok []
  | c :: rest => match skip with
    | skip + 1 => ruleSigns skip rest
    | 0 => match c, rest with
      | '*', '*' :: '/' :: _ => (ruleSigns 2 rest).map (Sign.special "(.*[/])?" ++ ·)
      | '*', '*' :: _ => (ruleSigns 1 rest).map (Sign.special ".*" ++ ·)
      | '*', _ => (ruleSigns 0 rest).map (Sign.special "[^/]*" ++ ·)
      | '?', _ => (ruleSigns 0 rest).map (Sign.special "[^/]" ++ ·)
      | '/', _ => (ruleSigns 0 rest).map (Sign.special "[/]" ++ ·)
      | '[', _ => match bracketed? rest with
        | none => (ruleSigns 0 rest).map (⟨'[', true⟩ :: ·)
        | some content => match classSigns content with
          | .error fault => .error fault
          | .ok signs => (ruleSigns (content.length + 1) rest).map (signs ++ ·)
      | c, _ => (ruleSigns 0 rest).map (⟨c, true⟩ :: ·)

/-! ## Rules -/

/-- Any text. -/
def anything : Pattern := .star (.one ⟨true, []⟩)

/-- What a path must be so that a part of it that starts where a rule may start, and ends where
    it may end, matches `body`.  A line feed at the very end of a path does not count. -/
def pathsWith (anchored directoryOnly negated : Bool) (body : Pattern) : Pattern :=
  let front := if anchored then .empty else .opt (.seq anything (.char '/'))
  let finish := .opt (.char '\n')
  let back :=
    if !directoryOnly then finish
    else if negated then .seq (.char '/') finish
    else .either finish (.seq (.char '/') anything)
  .all [front, body, back]

/-- The rule of a line without its `!`. -/
def ruleOf (negated : Bool) (line : List Char) : Except RuleFault (Option IgnoreRule) := do
  let rule := squeezeBefore 0 (squeezeAfter 0 line)
  if trimRight rule = ['/'] then return none
  let _ ← first rule
  let directoryOnly := rule.getLast? = some '/'
  let anchored := '/' ∈ rule.dropLast
  let rule ← dropSlash rule
  let _ ← first rule
  let deep := ['*', '*'].isPrefixOf rule
  let rule ← dropSlash (if deep then rule.drop 2 else rule)
  let _ ← first rule
  let rule := if rule.getLast? = some '/' then rule.dropLast else rule
  let rule ← match rule with
    | [] | ['\\'] => .error .tooShort
    | '\\' :: c :: rest => .ok (if c = '#' || c = '!' then c :: rest else rule)
    | _ => .ok rule
  let signs ← ruleSigns 0 (trimSpaces true [] rule.reverse)
  let paths := (pattern? signs).map (pathsWith (anchored && !deep) directoryOnly negated)
  return some ⟨negated, paths⟩

/-- The rule of a line. -/
def ruleOfLine (line : List Char) : Except RuleFault (Option IgnoreRule) :=
  if (trim line).isEmpty then .ok none
  else match line with
    | '#' :: _ => .ok none
    | '!' :: rest => ruleOf true rest
    | line => ruleOf false line

/-- The rules of lines, in their order. -/
def rulesOfLines : List (List Char) → Except RuleFault (List IgnoreRule)
  | [] => .ok []
  | line :: rest => do
    let rule ← ruleOfLine line
    let rules ← rulesOfLines rest
    return rule.toList ++ rules

/-- The rules of a file.  Lines are read as they come: where the bytes break off within a
    character, the whole lines before come first, and the place is counted from that character
    on. -/
def rulesOf (data : List UInt8) : Except Failure (List IgnoreRule) :=
  match Utf8.decode data with
  | .ok text => (rulesOfLines (lines text)).mapError .rule
  | .error fault =>
    if fault.kind = .truncated then
      let before := Utf8.lossy (data.take fault.start)
      let whole := (before.reverse.dropWhile fun c => c ≠ '\n' && c ≠ '\r').reverse
      match rulesOfLines (lines whole) with
      | .error e => .error (.rule e)
      | .ok _ => .error (.undecodable { fault with start := 0 })
    else .error (.undecodable fault)

/-! ## Matching -/

/-- The rule matches a path. -/
def IgnoreRule.covers (rule : IgnoreRule) (path : List Char) : Except RuleFault Bool :=
  match rule.paths with
  | some paths => .ok (paths.accepts path)
  | none => .error .malformed

/-- The first of the rules that matches decides; without one the path is not ignored. -/
def firstDecides (path : List Char) : List IgnoreRule → Except RuleFault Bool
  | [] => .ok false
  | rule :: rest => do
    if ← rule.covers path then return !rule.negated
    firstDecides path rest

/-- The path of a file is ignored.  Where rules are turned around, the last one that matches
    decides, so they are asked from the last one on. -/
def ignores (rules : List IgnoreRule) (path : List Char) : Except RuleFault Bool :=
  firstDecides path (if rules.any (·.negated) then rules.reverse else rules)

end GoWorkbench.Scan
