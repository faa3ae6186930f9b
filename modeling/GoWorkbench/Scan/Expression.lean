/-
  Regular expressions as rules for ignored files spell them.

  An expression is a row of signs; a sign is a character that either has its special meaning or
  stands for itself.  Of the usual notation there are the dot, groups, classes with ranges, and
  the marks for "any number of times" and "at most once".  Every other sign stands for itself.

  A class lasts until the first `]` with its special meaning that is not its first member, so a
  class with no member of its own takes in signs that were meant to follow it.
-/
import GoWorkbench.Pattern

namespace GoWorkbench.Scan

/-- A character of an expression. -/
structure Sign where
  char : Char
  /-- The character stands for itself. -/
  literal : Bool
deriving DecidableEq, Repr

namespace Sign

/-- The sign is `c` with its special meaning. -/
def isMark (s : Sign) (c : Char) : Bool := !s.literal && s.char == c

/-- The signs of a text, each with its special meaning. -/
def special (s : String) : List Sign := s.toList.map fun c => ⟨c, false⟩

end Sign

/-! ## Classes -/

/-- The members of a class and what follows it.  `started` says that a member has been read;
    nothing comes out of a class that is not closed or has a range from a higher character to a
    lower one. -/
def members? (started : Bool) (ranges : List (Char × Char)) :
    List Sign → Option (List (Char × Char) × List Sign)
  | [] => none
  | a :: rest =>
    if started && a.isMark ']' then some (ranges, rest)
    else match rest with
      | dash :: b :: more =>
        if dash.isMark '-' then
          if b.isMark ']' then some (ranges ++ [(a.char, a.char), ('-', '-')], more)
          else if b.char < a.char then none
          else members? true (ranges ++ [(a.char, b.char)]) more
        else members? true (ranges ++ [(a.char, a.char)]) (dash :: b :: more)
      | rest => members? true (ranges ++ [(a.char, a.char)]) rest

/-- A class and what follows it; a `^` in front inverts it. -/
def charSet? (signs : List Sign) : Option (CharSet × List Sign) :=
  match signs with
  | first :: rest =>
    if first.isMark '^' then
      (members? false [] rest).map fun (ranges, rest) => (⟨true, ranges⟩, rest)
    else (members? false [] signs).map fun (ranges, rest) => (⟨false, ranges⟩, rest)
  | [] => none

/-- A class uses up signs. -/
theorem length_lt_of_members? {started : Bool} {ranges found : List (Char × Char)}
    {signs rest : List Sign} (h : members? started ranges signs = some (found, rest)) :
    rest.length < signs.length := by
  fun_induction members? started ranges signs <;> grind

theorem length_lt_of_charSet? {signs rest : List Sign} {set : CharSet}
    (h : charSet? signs = some (set, rest)) : rest.length < signs.length := by
  cases signs with
  | nil => simp [charSet?] at h
  | cons first tail =>
    simp only [charSet?] at h
    split at h
    · obtain ⟨⟨found, r⟩, hm, he⟩ := Option.map_eq_some_iff.1 h
      have := length_lt_of_members? hm
      grind
    · obtain ⟨⟨found, r⟩, hm, he⟩ := Option.map_eq_some_iff.1 h
      have := length_lt_of_members? hm
      grind

/-! ## Expressions -/

/-- Changes the last item read; there must be one. -/
def changeLast (f : Pattern → Pattern) : List Pattern → Option (List Pattern)
  | [] => none
  | p :: rest => some (f p :: rest)

/-- The pattern that an expression stands for.  `items` are the items read last, backwards, and
    `groups` those in front of the groups that are open. -/
def patternFrom (groups : List (List Pattern)) (items : List Pattern) (signs : List Sign) :
    Option Pattern :=
  match signs with
  | [] => if groups.isEmpty then some (.all items.reverse) else none
  | s :: rest =>
    if s.isMark '.' then patternFrom groups (.noneOf "\n" :: items) rest
    else if s.isMark '*' then match changeLast .star items with
      | some items => patternFrom groups items rest
      | none => none
    else if s.isMark '?' then match changeLast .opt items with
      | some items => patternFrom groups items rest
      | none => none
    else if s.isMark '(' then patternFrom (items :: groups) [] rest
    else if s.isMark ')' then match groups with
      | outer :: groups => patternFrom groups (.all items.reverse :: outer) rest
      | [] => none
    else if s.isMark '[' then match h : charSet? rest with
      | some (set, after) =>
        have : after.length < rest.length := length_lt_of_charSet? h
        patternFrom groups (.one set :: items) after
      | none => none
    else patternFrom groups (.char s.char :: items) rest
termination_by signs.length

/-- The pattern that an expression stands for, if it is well formed. -/
def pattern? (signs : List Sign) : Option Pattern := patternFrom [] [] signs

end GoWorkbench.Scan
