/-
  UTF-8 over lists of bytes.

  A byte sequence is cut from left to right into pieces: a character with its width, or a flaw.
  A flaw is as long as the bytes that could still have become a character (a *maximal invalid
  part*), so the byte after it is always looked at afresh.  Two readings follow from the cut:

  * `lossy`   — every flaw becomes one U+FFFD, the text around it is untouched;
  * `decode`  — the first flaw is an error that says where it stands and what is wrong.
-/
namespace GoWorkbench.Text.Utf8

/-- The bytes of a text. -/
def encode (text : List Char) : List UInt8 := text.flatMap String.utf8EncodeChar

/-- The bytes of a string. -/
def bytes (s : String) : List UInt8 := encode s.toList

/-- What is wrong with bytes that are not UTF-8. -/
inductive Flaw
  | start
  | continuation
  | truncated
deriving DecidableEq, Repr

/-- One step of the cut. -/
inductive Piece
  | char (c : Char) (width : Nat)
  | flaw (kind : Flaw) (width : Nat)
deriving DecidableEq, Repr

/-- How many bytes a piece covers. -/
def Piece.width : Piece → Nat
  | .char _ w => w
  | .flaw _ w => w

/-- What a lead byte asks for: how many bytes follow, the bits it holds itself, and the range of
    the first byte that follows (narrower than 0x80 to 0xBF where a shorter form, a surrogate or
    a number above U+10FFFF would arise). -/
def lead (b : UInt8) : Option (Nat × Nat × UInt8 × UInt8) :=
  if b < 0xC2 then none
  else if b < 0xE0 then some (1, b.toNat - 0xC0, 0x80, 0xBF)
  else if b < 0xF0 then
    some (2, b.toNat - 0xE0, if b == 0xE0 then 0xA0 else 0x80, if b == 0xED then 0x9F else 0xBF)
  else if b < 0xF5 then
    some (3, b.toNat - 0xF0, if b == 0xF0 then 0x90 else 0x80, if b == 0xF4 then 0x8F else 0xBF)
  else none

/-- Reads `count` more bytes of a character, the first between `low` and `high`. -/
def finish (count value width : Nat) (low high : UInt8) : List UInt8 → Piece
  | [] => if count = 0 then .char (Char.ofNat value) width else .flaw .truncated width
  | b :: rest =>
    if count = 0 then .char (Char.ofNat value) width
    else if low ≤ b && b ≤ high then
      finish (count - 1) (value * 64 + (b.toNat - 0x80)) (width + 1) 0x80 0xBF rest
    else .flaw .continuation width

/-- The piece that begins with `b`. -/
def piece (b : UInt8) (rest : List UInt8) : Piece :=
  if b < 0x80 then .char (Char.ofNat b.toNat) 1
  else match lead b with
    | none => .flaw .start 1
    | some (count, value, low, high) => finish count value 1 low high rest

/-- All pieces from left to right; `skip` bytes belong to the piece before. -/
def cut (skip : Nat) : List UInt8 → List Piece
  | [] => []
  | b :: rest => match skip with
    | skip + 1 => cut skip rest
    | 0 =>
      let p := piece b rest
      p :: cut (p.width - 1) rest

/-- The character that a piece is read as. -/
def Piece.repaired : Piece → Char
  | .char c _ => c
  | .flaw _ _ => '\ufffd'

/-- The text of the bytes, with U+FFFD for each flaw. -/
def lossy (data : List UInt8) : List Char := (cut 0 data).map Piece.repaired

/-- A flaw with the place where it was found. -/
structure Fault where
  kind : Flaw
  byte : UInt8
  start : Nat
  width : Nat
deriving DecidableEq, Repr

/-- Reads pieces strictly; `place` is where the first of them stands in `data`. -/
def gather (data : List UInt8) (place : Nat) : List Piece → Except Fault (List Char)
  | [] => .ok []
  | .char c w :: rest => (gather data (place + w) rest).map (c :: ·)
  | .flaw kind w :: _ => .error ⟨kind, data.getD place 0, place, w⟩

/-- The text of the bytes, or the first flaw. -/
def decode (data : List UInt8) : Except Fault (List Char) := gather data 0 (cut 0 data)

/-- The string of the bytes, if they are UTF-8. -/
def string? (data : List UInt8) : Option String := (decode data).toOption.map String.ofList

/-! ## Wording -/

/-- Two hexadecimal digits. -/
def hexByte (b : UInt8) : String :=
  String.ofList [Nat.digitChar (b.toNat / 16), Nat.digitChar (b.toNat % 16)]

/-- What is wrong, in words. -/
def Flaw.message : Flaw → String
  | .start => "invalid start byte"
  | .continuation => "invalid continuation byte"
  | .truncated => "unexpected end of data"

/-- The error text of a flaw. -/
def Fault.message (f : Fault) : String :=
  if f.width = 1 then
    s!"'utf-8' codec can't decode byte 0x{hexByte f.byte} in position {f.start}: {f.kind.message}"
  else
    s!"'utf-8' codec can't decode bytes in position {f.start}-{f.start + f.width - 1}: " ++
      f.kind.message

end GoWorkbench.Text.Utf8
