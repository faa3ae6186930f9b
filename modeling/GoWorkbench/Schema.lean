/-
  Checking values against what a program wants of them.

  A check takes a value and gives what it stands for, or complaints.  Each complaint names the
  place it is about by the keys and indices that lead to it.  Where several things are checked,
  all complaints are kept, in the order of the checks.

  Checks are lenient where the meaning is plain: numbers and words can stand for truth values,
  whole reals and digits in a text for integers.
-/
import GoWorkbench.Text.Digits
import GoWorkbench.Value

namespace GoWorkbench

open GoWorkbench.Text

/-! ## Complaints -/

/-- One step towards a place in a value. -/
inductive Step
  | key (name : String)
  | index (n : Nat)
deriving DecidableEq, Repr

/-- What is wrong at a place. -/
inductive Problem
  | notText
  | notBool
  | unclearBool
  | notInteger
  | unclearInteger
  | hugeInteger
  | fractional
  | notFinite
  | tooSmall (least : Int)
  | notList
  | notTable
  /-- Not a table, where one with the fields of `model` is wanted. -/
  | notModel (model : String)
  | notChoice (choices : List String)
  | missing
  | unknown
  | refused (reason : String)
deriving DecidableEq, Repr

/-- Words in a row, the last two with "or" between. -/
def alternatives : List String → String
  | [] => ""
  | [a] => a
  | [a, b] => a ++ " or " ++ b
  | a :: rest => a ++ ", " ++ alternatives rest

/-- What is wrong, in words. -/
def Problem.message : Problem → String
  | .notText => "Input should be a valid string"
  | .notBool => "Input should be a valid boolean"
  | .unclearBool => "Input should be a valid boolean, unable to interpret input"
  | .notInteger => "Input should be a valid integer"
  | .unclearInteger => "Input should be a valid integer, unable to parse string as an integer"
  | .hugeInteger => "Unable to parse input string as an integer, exceeded maximum size"
  | .fractional => "Input should be a valid integer, got a number with a fractional part"
  | .notFinite => "Input should be a finite number"
  | .tooSmall least => s!"Input should be greater than or equal to {least}"
  | .notList => "Input should be a valid list"
  | .notTable => "Input should be a valid dictionary"
  | .notModel model => s!"Input should be a valid dictionary or instance of {model}"
  | .notChoice choices => "Input should be " ++ alternatives (choices.map fun c => s!"'{c}'")
  | .missing => "Field required"
  | .unknown => "Extra inputs are not permitted"
  | .refused reason => "Value error, " ++ reason

structure Complaint where
  place : List Step
  problem : Problem
deriving DecidableEq, Repr

/-- A value that has been checked, or what is wrong with it. -/
abbrev Checked (α : Type) := Except (List Complaint) α

namespace Checked

/-- A single complaint about the value itself. -/
def complain {α : Type} (p : Problem) : Checked α := .error [⟨[], p⟩]

/-- The complaints are about what `step` leads to. -/
def within {α : Type} (step : Step) : Checked α → Checked α
  | .ok a => .ok a
  | .error es => .error (es.map fun e => { e with place := step :: e.place })

/-- Both checks; all complaints are kept. -/
def both {α β : Type} : Checked α → Checked β → Checked (α × β)
  | .ok a, .ok b => .ok (a, b)
  | .error es, .ok _ => .error es
  | .ok _, .error es => .error es
  | .error es, .error fs => .error (es ++ fs)

/-- All checks of a list; all complaints are kept. -/
def every {α : Type} : List (Checked α) → Checked (List α)
  | [] => .ok []
  | c :: rest => (both c (every rest)).map fun (a, as) => a :: as

end Checked

/-! ## Simple values -/

namespace Schema

def text : Value → Checked String
  | .text s => .ok s
  | _ => .complain .notText

/-- A text, or null for none. -/
def optionalText : Value → Checked (Option String)
  | .null => .ok none
  | v => (text v).map some

/-- An ASCII letter in lower case; others stay. -/
def lowerAscii (s : String) : String := String.ofList (s.toList.map Char.toLower)

/-- The words that mean true and those that mean false, in any case. -/
def truthWords : List String := ["1", "on", "t", "true", "y", "yes"]
def falsehoodWords : List String := ["0", "off", "f", "false", "n", "no"]

/-- How many integers without a sign a machine word of 63 bits holds. -/
def wordBound : Int := 0x8000000000000000

/-- The integers that a machine word of 64 bits holds. -/
def isWord (n : Int) : Bool := -wordBound ≤ n && n < wordBound

/-- One is true and zero is false; other words of 64 bits are unclear. -/
def boolOfInteger (n : Int) : Checked Bool :=
  if n = 0 then .ok false
  else if n = 1 then .ok true
  else if isWord n then .complain .unclearBool
  else .complain .notBool

def bool : Value → Checked Bool
  | .bool b => .ok b
  | .text s =>
    if lowerAscii s ∈ truthWords then .ok true
    else if lowerAscii s ∈ falsehoodWords then .ok false
    else .complain .unclearBool
  | .integer n => boolOfInteger n
  | .real x => match x.toInt? with
    | some n => boolOfInteger n
    | none => .complain .notBool
  | _ => .complain .notBool

/-! ### Integers in texts -/

/-- White space around a number. -/
def isMargin (c : Char) : Bool :=
  let n := c.toNat
  (0x9 ≤ n && n ≤ 0xD) || n == 0x20 || n == 0x85 || n == 0xA0 || n == 0x1680 ||
  (0x2000 ≤ n && n ≤ 0x200A) || n == 0x2028 || n == 0x2029 || n == 0x202F || n == 0x205F ||
  n == 0x3000

/-- The text without its margins. -/
def trimMargins (cs : List Char) : List Char :=
  ((cs.dropWhile isMargin).reverse.dropWhile isMargin).reverse

/-- The digits of a number, where single underscores may stand between two digits. -/
def digits? : List Char → Option (List Char)
  | [] => none
  | [d] => if d.isDigit then some [d] else none
  | d :: '_' :: rest => if d.isDigit then (digits? rest).map (d :: ·) else none
  | d :: rest => if d.isDigit then (digits? rest).map (d :: ·) else none

/-- The number without a fraction that is nothing but zeros. -/
def dropZeroFraction (cs : List Char) : List Char :=
  match cs.dropWhile (· != '.') with
  | '.' :: '0' :: zeros => if zeros.all (· == '0') then cs.takeWhile (· != '.') else cs
  | _ => cs

/-- How many digits a text may have. -/
def maxDigits : Nat := 4300

/-- The integer that a text stands for: digits with a sign, where a positive one may begin with
    zeros. -/
def integerOfText (s : String) : Checked Int :=
  let plainDigits := match s.toList with
    | '-' :: ds => ds
    | ds => ds
  if plainDigits.all Char.isDigit && maxDigits < plainDigits.length then .complain .hugeInteger
  else
    let cs := dropZeroFraction (trimMargins s.toList)
    let read := match cs with
      | '-' :: ds => match digits? ds with
        | some ('0' :: _ :: _) => none
        | some ds => some (-(decimal ds : Int))
        | none => none
      | '+' :: ds => (digits? ds).map fun ds => (decimal ds : Int)
      | ds => (digits? ds).map fun ds => (decimal ds : Int)
    match read with
    | some n => .ok n
    | none => .complain .unclearInteger

def integer : Value → Checked Int
  | .bool b => .ok (if b then 1 else 0)
  | .integer n => .ok n
  | .real x =>
    if !x.isFinite then .complain .notFinite
    else match x.toInt? with
      | none => .complain .fractional
      | some n => if isWord n && n ≠ -wordBound then .ok n else .complain .hugeInteger
  | .text s => integerOfText s
  | _ => .complain .notInteger

/-- An integer of at least `least`, or null for none. -/
def optionalAtLeast (least : Int) : Value → Checked (Option Int)
  | .null => .ok none
  | v => match integer v with
    | .ok n => if n < least then .complain (.tooSmall least) else .ok (some n)
    | .error es => .error es

/-- One of the choices. -/
def choice {α : Type} (choices : List (String × α)) (s : String) : Checked α :=
  match choices.lookup s with
  | some a => .ok a
  | none => .complain (.notChoice (choices.map (·.1)))

/-! ## Lists and tables -/

/-- A list of texts. -/
def texts : Value → Checked (List String)
  | .list items => .every (items.zipIdx.map fun (v, i) => (text v).within (.index i))
  | _ => .complain .notList

/-- A table from names to texts. -/
def textTable : Value → Checked (List (String × String))
  | .table entries =>
    .every (entries.map fun (k, v) => Checked.within (.key k) ((text v).map fun s => (k, s)))
  | _ => .complain .notTable

/-- A field that may be absent. -/
def field {α : Type} (entries : List (String × Value)) (key : String) (absent : α)
    (check : Value → Checked α) : Checked α :=
  match Value.get? key entries with
  | some v => (check v).within (.key key)
  | none => .ok absent

/-- A field that must be there. -/
def required {α : Type} (entries : List (String × Value)) (key : String)
    (check : Value → Checked α) : Checked α :=
  match Value.get? key entries with
  | some v => (check v).within (.key key)
  | none => Checked.within (.key key) (.complain .missing)

/-- There are no keys but the known ones. -/
def noOthers (entries : List (String × Value)) (known : List String) : Checked Unit :=
  match entries.filter fun (k, _) => k ∉ known with
  | [] => .ok ()
  | others => .error (others.map fun (k, _) => ⟨[.key k], .unknown⟩)

/-- A table with the fields of a model. -/
def model {α : Type} (name : String) (check : List (String × Value) → Checked α) :
    Value → Checked α
  | .table entries => check entries
  | _ => .complain (.notModel name)

end Schema

end GoWorkbench
