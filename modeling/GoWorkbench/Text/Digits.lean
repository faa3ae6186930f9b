/-
  Numbers written in digits.
-/
namespace GoWorkbench.Text

/-- The value of a hexadecimal digit. -/
def hexDigit? (c : Char) : Option Nat :=
  if '0' ≤ c && c ≤ '9' then some (c.toNat - '0'.toNat)
  else if 'a' ≤ c && c ≤ 'f' then some (c.toNat - 'a'.toNat + 10)
  else if 'A' ≤ c && c ≤ 'F' then some (c.toNat - 'A'.toNat + 10)
  else none

/-- The number that digits stand for in a base; `n` is the number in front of them. -/
def numberFrom? (base n : Nat) : List Char → Option Nat
  | [] => some n
  | c :: rest => match hexDigit? c with
    | some d => if d < base then numberFrom? base (n * base + d) rest else none
    | none => none

/-- The number that digits stand for in a base; no digits are zero. -/
def number? (base : Nat) (digits : List Char) : Option Nat := numberFrom? base 0 digits

/-- The number that decimal digits stand for. -/
def decimal (digits : List Char) : Nat :=
  digits.foldl (fun n c => n * 10 + (c.toNat - '0'.toNat)) 0

end GoWorkbench.Text
