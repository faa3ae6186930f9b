/-
  Text as an editor may send it: code points, among them halves of surrogate pairs.

  A half of a pair is no character, so such a text has no UTF-8 form; `encode` says where the
  first run of halves stands.  Everything else is ordinary text.
-/
import GoWorkbench.Text.Quoted
import GoWorkbench.Text.Utf8

namespace GoWorkbench.Text

/-- A list of code points, each below 0x110000. -/
structure CodePoints where
  toList : List Nat
deriving DecidableEq, Repr

namespace CodePoints

/-- Half of a surrogate pair. -/
def isSurrogate (n : Nat) : Bool := 0xD800 ≤ n && n ≤ 0xDFFF

/-- The code points of a string. -/
def ofString (s : String) : CodePoints := ⟨s.toList.map Char.toNat⟩

/-- The string of the code points, with U+FFFD for each half of a pair. -/
def toString (p : CodePoints) : String :=
  String.ofList (p.toList.map fun n => if isSurrogate n then '\ufffd' else Char.ofNat n)

/-- The first run of surrogates: its first code point, its place and its length. -/
structure Unencodable where
  first : Nat
  start : Nat
  length : Nat
deriving DecidableEq, Repr

/-- The first run of surrogates, where `place` is where the list begins. -/
def firstSurrogates (place : Nat) : List Nat → Option Unencodable
  | [] => none
  | n :: rest =>
    if isSurrogate n then some ⟨n, place, 1 + (rest.takeWhile isSurrogate).length⟩
    else firstSurrogates (place + 1) rest

/-- The UTF-8 form of the text, if it has one. -/
def encode (p : CodePoints) : Except Unencodable (List UInt8) :=
  match firstSurrogates 0 p.toList with
  | some run => .error run
  | none => .ok (Utf8.encode (p.toList.map Char.ofNat))

/-- The error text of a run of surrogates. -/
def Unencodable.message (u : Unencodable) : String :=
  let place :=
    if u.length = 1 then
      s!"character '{String.ofList (numericEscape u.first)}' in position {u.start}"
    else s!"characters in position {u.start}-{u.start + u.length - 1}"
  s!"'utf-8' codec can't encode {place}: surrogates not allowed"

end CodePoints

end GoWorkbench.Text
