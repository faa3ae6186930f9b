/-
  Numbers as binary floating point holds them, with 53 significant bits.

  A finite number is a sign, a natural number and a power of two.  The only operation that
  rounds is `ofDecimal`: a decimal becomes the nearest number that can be held, of two equally
  near ones the one with an even last bit.  Decimals too large to be held are infinite, those
  too small are zero.  All arithmetic on the way is exact.
-/
namespace GoWorkbench

inductive Binary64
  /-- ± `significand` · 2 ^ `exponent`. -/
  | finite (negative : Bool) (significand : Nat) (exponent : Int)
  | infinite (negative : Bool)
  | nan
deriving DecidableEq, Repr

namespace Binary64

/-- A quotient of natural numbers rounded to the nearest, of two to the even one. -/
def roundDiv (n d : Nat) : Nat :=
  let q := n / d
  let r := n % d
  if 2 * r < d then q else if d < 2 * r then q + 1 else if q % 2 = 0 then q else q + 1

/-- How many bits a significand has. -/
def precision : Nat := 53

/-- The least exponent of a finite number. -/
def leastExponent : Int := -1074

/-- The numbers from two to this power on are infinite. -/
def overflowExponent : Nat := 1024

/-- Multiplies by a power of two, or divides if the power is negative. -/
def scaled (n d : Nat) (power : Int) : Nat × Nat :=
  if 0 ≤ power then (n <<< power.toNat, d) else (n, d <<< (-power).toNat)

/-- The greatest `e` with 2 ^ e ≤ n / d. -/
def floorLog2 (n d : Nat) : Int :=
  let guess : Int := n.log2 - d.log2
  let (n, d) := scaled n d (-guess)
  if d ≤ n then guess else guess - 1

/-- The number nearest to ± `n` / `d`. -/
def ofRatio (negative : Bool) (n d : Nat) : Binary64 :=
  if n = 0 then .finite negative 0 0
  else
    let exponent := max (floorLog2 n d - (precision - 1 : Nat)) leastExponent
    let (n, d) := scaled n d (-exponent)
    let significand := roundDiv n d
    if overflowExponent ≤ exponent + significand.log2 then .infinite negative
    else .finite negative significand exponent

/-- The number nearest to ± `digits` · 10 ^ `exponent`.  Where the size of the decimal alone
    decides, no power of ten is built. -/
def ofDecimal (negative : Bool) (digits : Nat) (exponent : Int) : Binary64 :=
  let size : Int := (Nat.toDigits 10 digits).length + exponent
  if digits = 0 || size < -330 then .finite negative 0 0
  else if 310 < size then .infinite negative
  else if 0 ≤ exponent then ofRatio negative (digits * Nat.pow 10 exponent.toNat) 1
  else ofRatio negative digits (Nat.pow 10 (-exponent).toNat)

/-- The integer that the number is, if it is one. -/
def toInt? : Binary64 → Option Int
  | .finite negative significand exponent =>
    let magnitude :=
      if 0 ≤ exponent then some (significand <<< exponent.toNat)
      else
        let unit := 1 <<< (-exponent).toNat
        if significand % unit = 0 then some (significand / unit) else none
    magnitude.map fun m => if negative then -(m : Int) else m
  | _ => none

/-- Neither infinite nor no number at all. -/
def isFinite : Binary64 → Bool
  | .finite _ _ _ => true
  | _ => false

end Binary64

end GoWorkbench
