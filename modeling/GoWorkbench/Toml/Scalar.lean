/-
  Texts, numbers and dates in TOML.

  Each reader takes what is left of a document and gives the value at its front with what
  follows it.  Where the front of a number or a date may end in several places, the longest
  reading is taken.
-/
import GoWorkbench.Pattern
import GoWorkbench.Text.Digits
import GoWorkbench.Value

namespace GoWorkbench.Toml

open GoWorkbench.Text

/-- Why a document is not read. -/
inductive Fault
  | malformed
  /-- A decimal integer with more digits than are read. -/
  | longInteger (digits : Nat)
deriving DecidableEq, Repr

/-- What was read, with what follows it. -/
abbrev Reading (α : Type) := Except Fault (α × List Char)

/-- Control characters other than the tab may not stand in texts and comments. -/
def isControl (c : Char) : Bool := (c.toNat < 0x20 && c ≠ '\t') || c.toNat == 0x7F

/-! ## Texts -/

/-- What a backslash and one character stand for. -/
def shortEscape : Char → Option Char
  | 'b' => some '\x08'
  | 't' => some '\t'
  | 'n' => some '\n'
  | 'f' => some '\x0c'
  | 'r' => some '\r'
  | '"' => some '"'
  | '\\' => some '\\'
  | _ => none

/-- The character with a number, if it is one. -/
def scalar? (n : Nat) : Option Char :=
  if n < 0xD800 || (0xDFFF < n && n < 0x110000) then some (Char.ofNat n) else none

/-- Where a text of several lines is being joined after a backslash at the end of a line. -/
inductive Joining
  | no
  /-- Only blanks may come before the end of the line. -/
  | sameLine
  /-- All blanks and line ends are left out. -/
  | nextLines
deriving DecidableEq, Repr

/-- The rest of a text in double quotes; `read` is what was read of it, backwards. -/
def basicFrom (multiline : Bool) (joining : Joining) (read : List Char) :
    List Char → Reading (List Char)
  | [] => .error .malformed
  | c :: rest =>
    if joining = .sameLine && (c == ' ' || c == '\t') then basicFrom multiline .sameLine read rest
    else if joining = .sameLine then
      if c = '\n' then basicFrom multiline .nextLines read rest else .error .malformed
    else if joining = .nextLines && (c == ' ' || c == '\t' || c == '\n') then
      basicFrom multiline .nextLines read rest
    else match c, rest with
      | '"', rest =>
        let quotes := (rest.takeWhile (· == '"')).length + 1
        if !multiline then .ok (read.reverse, rest)
        else if quotes < 3 then basicFrom multiline .no ('"' :: read) rest
        else
          let extra := min (quotes - 3) 2
          .ok (read.reverse ++ List.replicate extra '"', rest.drop (extra + 2))
      | '\\', 'u' :: a :: b :: c :: d :: rest =>
        match (number? 16 [a, b, c, d]).bind scalar? with
        | some c => basicFrom multiline .no (c :: read) rest
        | none => .error .malformed
      | '\\', 'U' :: a :: b :: c :: d :: e :: f :: g :: h :: rest =>
        match (number? 16 [a, b, c, d, e, f, g, h]).bind scalar? with
        | some c => basicFrom multiline .no (c :: read) rest
        | none => .error .malformed
      | '\\', e :: rest =>
        if multiline && (e == ' ' || e == '\t') then basicFrom multiline .sameLine read rest
        else if multiline && e = '\n' then basicFrom multiline .nextLines read rest
        else match shortEscape e with
          | some c => basicFrom multiline .no (c :: read) rest
          | none => .error .malformed
      | '\\', [] => .error .malformed
      | c, rest =>
        if isControl c && !(multiline && c = '\n') then .error .malformed
        else basicFrom multiline .no (c :: read) rest

/-- The rest of a text in apostrophes. -/
def literalFrom (read : List Char) : List Char → Reading (List Char)
  | [] => .error .malformed
  | '\'' :: rest => .ok (read.reverse, rest)
  | c :: rest => if isControl c then .error .malformed else literalFrom (c :: read) rest

/-- The rest of a text of several lines in apostrophes. -/
def literalLinesFrom (read : List Char) : List Char → Reading (List Char)
  | [] => .error .malformed
  | c :: rest =>
    let quotes := ((c :: rest).takeWhile (· == '\'')).length
    if 3 ≤ quotes then
      let extra := min (quotes - 3) 2
      .ok (read.reverse ++ List.replicate extra '\'', rest.drop (extra + 2))
    else if isControl c && c ≠ '\n' then .error .malformed
    else literalLinesFrom (c :: read) rest

/-- A line end directly after the opening quotes does not count. -/
def dropLineEnd : List Char → List Char
  | '\n' :: rest => rest
  | rest => rest

/-- A text of any kind, if one stands at the front. -/
def text? : List Char → Option (Reading (List Char))
  | '"' :: '"' :: '"' :: rest => some (basicFrom true .no [] (dropLineEnd rest))
  | '"' :: rest => some (basicFrom false .no [] rest)
  | '\'' :: '\'' :: '\'' :: rest => some (literalLinesFrom [] (dropLineEnd rest))
  | '\'' :: rest => some (literalFrom [] rest)
  | _ => none

/-! ## Numbers -/

/-- Digits of a kind, where single underscores may stand between two. -/
def groupedDigits (digit : CharSet) : Pattern :=
  .seq (.one digit) (.star (.seq (.opt (.char '_')) (.one digit)))

def decimalDigit : CharSet := .range '0' '9'

def hexDigit : CharSet := ⟨false, [('0', '9'), ('a', 'f'), ('A', 'F')]⟩

/-- An integer in base 16, 8 or 2. -/
def basedNumber : Pattern :=
  .seq (.char '0') (.any (.seq (.char 'x') (groupedDigits hexDigit)) [
    .seq (.char 'o') (groupedDigits (.range '0' '7')),
    .seq (.char 'b') (groupedDigits (.range '0' '1'))])

/-- A decimal number: sign, whole part, fraction and exponent. -/
def decimalNumber : Pattern :=
  .all [
    .opt (.anyOf "+-"),
    .either (.char '0') (.seq (.one (.range '1' '9'))
      (.star (.seq (.opt (.char '_')) (.one decimalDigit)))),
    .opt (.seq (.char '.') (groupedDigits decimalDigit)),
    .opt (.all [.anyOf "eE", .opt (.anyOf "+-"), groupedDigits decimalDigit])]

/-- How many digits a decimal integer may have. -/
def maxDigits : Nat := 4300

/-- A sign and what follows it; no sign is plus. -/
def signOf : List Char → Bool × List Char
  | '-' :: rest => (true, rest)
  | '+' :: rest => (false, rest)
  | rest => (false, rest)

/-- The value of a decimal number.  One with a fraction or an exponent is real. -/
def decimalValue (chars : List Char) : Except Fault Value :=
  let (negative, rest) := signOf (chars.filter (· ≠ '_'))
  let whole := rest.takeWhile Char.isDigit
  let rest := rest.dropWhile Char.isDigit
  if rest.isEmpty then
    if maxDigits < whole.length then .error (.longInteger whole.length)
    else .ok (.integer (if negative then -(decimal whole : Int) else decimal whole))
  else
    let fraction := if rest.head? = some '.' then (rest.drop 1).takeWhile Char.isDigit else []
    let (down, power) := signOf ((rest.dropWhile fun c => c ≠ 'e' && c ≠ 'E').drop 1)
    let power : Int := if down then -(decimal power : Int) else decimal power
    .ok (.real (.ofDecimal negative (decimal (whole ++ fraction)) (power - fraction.length)))

/-- The value of an integer in another base. -/
def basedValue (chars : List Char) : Option Value :=
  let digits := (chars.drop 2).filter (· ≠ '_')
  let base := match chars[1]? with
    | some 'x' => 16
    | some 'o' => 8
    | _ => 2
  (number? base digits).map fun n => .integer n

/-! ## Dates and times -/

/-- Any one of some two-digit numbers, given as the first digit and the range of the second. -/
def twoDigits (first : Char × Char × Char) (others : List (Char × Char × Char)) : Pattern :=
  let pair := fun (t, low, high) => Pattern.seq (.char t) (.one (.range low high))
  .any (pair first) (others.map pair)

def hours : Pattern := twoDigits ('0', '0', '9') [('1', '0', '9'), ('2', '0', '3')]

def sixties : Pattern := .seq (.one (.range '0' '5')) (.one decimalDigit)

/-- A time of day, with any number of digits for parts of a second. -/
def time : Pattern :=
  .all [hours, .char ':', sixties, .char ':', sixties,
    .opt (.seq (.char '.') (.plus (.one decimalDigit)))]

/-- A day of the calendar; not every month has all of the days. -/
def date : Pattern :=
  .all [.times 4 (.one decimalDigit), .char '-',
    twoDigits ('0', '1', '9') [('1', '0', '2')], .char '-',
    twoDigits ('0', '1', '9') [('1', '0', '9'), ('2', '0', '9'), ('3', '0', '1')]]

/-- A date, perhaps with a time, perhaps with an offset. -/
def dateTime : Pattern :=
  .seq date (.opt (.all [.anyOf "Tt ", time,
    .opt (.either (.anyOf "Zz") (.all [.anyOf "+-", hours, .char ':', sixties]))]))

/-- How many days a month has. -/
def daysIn (year month : Nat) : Nat :=
  if month = 2 then
    if year % 4 = 0 && (year % 100 ≠ 0 || year % 400 = 0) then 29 else 28
  else if month ∈ [4, 6, 9, 11] then 30 else 31

/-- The date that the characters begin with exists; there is no year zero. -/
def dateExists (chars : List Char) : Bool :=
  let year := decimal (chars.take 4)
  let month := decimal ((chars.drop 5).take 2)
  let day := decimal ((chars.drop 8).take 2)
  1 ≤ year && day ≤ daysIn year month

/-! ## Scalars -/

/-- The value of a word at the front. -/
def word? (cs : List Char) : Option (Value × List Char) :=
  let words : List (String × Value) := [
    ("true", .bool true), ("false", .bool false),
    ("inf", .real (.infinite false)), ("nan", .real .nan),
    ("+inf", .real (.infinite false)), ("-inf", .real (.infinite true)),
    ("+nan", .real .nan), ("-nan", .real .nan)]
  (words.find? fun (w, _) => w.toList.isPrefixOf cs).map fun (w, v) => (v, cs.drop w.length)

/-- A number, a date, a time or a word. -/
def plain (cs : List Char) : Reading Value :=
  match dateTime.longest? id cs with
  | some n =>
    if dateExists (cs.take n) then .ok (.moment, cs.drop n) else .error .malformed
  | none => match time.longest? id cs with
    | some n => .ok (.moment, cs.drop n)
    | none => match basedNumber.longest? id cs with
      | some n => match basedValue (cs.take n) with
        | some v => .ok (v, cs.drop n)
        | none => .error .malformed
      | none => match decimalNumber.longest? id cs with
        | some n => (decimalValue (cs.take n)).map fun v => (v, cs.drop n)
        | none => match word? cs with
          | some (v, rest) => .ok (v, rest)
          | none => .error .malformed

end GoWorkbench.Toml
