/-
  Reading JSON, strictly.

  The text is cut into tokens and the tokens are put together with a stack of the lists and
  tables that are still open; the height of that stack is the depth of the nesting, which the
  reader limits.  Between tokens only space, tab, line feed and carriage return may stand.  A
  run of other characters is a word: a number, `true`, `false` or `null`.

  Refused are: trailing commas, comments, control characters in texts, escapes of half a
  surrogate pair, and anything after the value; and, as far as `Limits` says so, deep nesting and
  numbers too large for binary floating point.
-/
import GoWorkbench.Text.Digits
import GoWorkbench.Text.Utf8
import GoWorkbench.Value

namespace GoWorkbench.Json

open GoWorkbench.Text

/-! ## Tokens -/

inductive Token
  | openList
  | closeList
  | openTable
  | closeTable
  | colon
  | comma
  /-- A text with its escapes as they were written. -/
  | text (raw : List Char)
  | word (chars : List Char)
deriving DecidableEq, Repr

/-- The token that one character is. -/
def mark : Char → Option Token
  | '[' => some .openList
  | ']' => some .closeList
  | '{' => some .openTable
  | '}' => some .closeTable
  | ':' => some .colon
  | ',' => some .comma
  | _ => none

/-- The characters that may stand between tokens. -/
def isBlank (c : Char) : Bool := c == ' ' || c == '\t' || c == '\n' || c == '\r'

/-- What is being read; the characters so far are held backwards. -/
inductive Reading
  | between
  | word (chars : List Char)
  | text (raw : List Char)
  /-- In a text, after a backslash. -/
  | escape (raw : List Char)

/-- The token that ends where the reading stops. -/
def Reading.finished : Reading → List Token
  | .word chars => [.word chars.reverse]
  | _ => []

/-- Cuts a text into tokens; a text that is not closed is none. -/
def tokensFrom : Reading → List Char → Option (List Token)
  | .between, [] => some []
  | .word w, [] => some [.word w.reverse]
  | .text _, [] => none
  | .escape _, [] => none
  | .escape raw, c :: rest => tokensFrom (.text (c :: raw)) rest
  | .text raw, c :: rest =>
    if c = '"' then (tokensFrom .between rest).map (.text raw.reverse :: ·)
    else if c = '\\' then tokensFrom (.escape (c :: raw)) rest
    else tokensFrom (.text (c :: raw)) rest
  | .between, c :: rest =>
    if c = '"' then tokensFrom (.text []) rest
    else if isBlank c then tokensFrom .between rest
    else match mark c with
      | some t => (tokensFrom .between rest).map (t :: ·)
      | none => tokensFrom (.word [c]) rest
  | .word w, c :: rest =>
    if c = '"' then (tokensFrom (.text []) rest).map (.word w.reverse :: ·)
    else if isBlank c then (tokensFrom .between rest).map (.word w.reverse :: ·)
    else match mark c with
      | some t => (tokensFrom .between rest).map (.word w.reverse :: t :: ·)
      | none => tokensFrom (.word (c :: w)) rest

def tokens (text : List Char) : Option (List Token) := tokensFrom .between text

/-! ## Texts -/

/-- What a backslash and one character stand for. -/
def shortEscape : Char → Option Char
  | '"' => some '"'
  | '\\' => some '\\'
  | '/' => some '/'
  | 'b' => some '\x08'
  | 'f' => some '\x0c'
  | 'n' => some '\n'
  | 'r' => some '\r'
  | 't' => some '\t'
  | _ => none

/-- Takes the escapes out of a text.  `high` is the first half of a surrogate pair whose second
    half must come next. -/
def unescape (high : Option Nat) : List Char → Option (List Char)
  | [] => if high.isSome then none else some []
  | '\\' :: 'u' :: a :: b :: c :: d :: rest => do
    let n ← number? 16 [a, b, c, d]
    match high with
    | some h =>
      if 0xDC00 ≤ n && n ≤ 0xDFFF then
        (unescape none rest).map
          (Char.ofNat (0x10000 + (h - 0xD800) * 0x400 + (n - 0xDC00)) :: ·)
      else none
    | none =>
      if 0xD800 ≤ n && n ≤ 0xDBFF then unescape (some n) rest
      else if 0xDC00 ≤ n && n ≤ 0xDFFF then none
      else (unescape none rest).map (Char.ofNat n :: ·)
  | '\\' :: c :: rest => do
    if high.isSome then none
    let c ← shortEscape c
    (unescape none rest).map (c :: ·)
  | c :: rest =>
    if high.isSome || c.toNat < 0x20 || c = '\\' then none
    else (unescape none rest).map (c :: ·)

/-! ## Words -/

/-- The decimal digits at the front, and what follows them. -/
def spanDigits (cs : List Char) : List Char × List Char :=
  (cs.takeWhile Char.isDigit, cs.dropWhile Char.isDigit)

/-- An exponent with its sign; nothing is zero. -/
def exponent? : List Char → Option Int
  | [] => some 0
  | e :: rest =>
    if e = 'e' || e = 'E' then
      let (negative, ds) := match rest with
        | '-' :: ds => (true, ds)
        | '+' :: ds => (false, ds)
        | ds => (false, ds)
      if ds.isEmpty || !ds.all Char.isDigit then none
      else some (if negative then -(decimal ds : Int) else decimal ds)
    else none

/-- A number without its sign.  Digits alone are an integer. -/
def magnitude? (negative : Bool) (cs : List Char) : Option Value :=
  let (whole, rest) := spanDigits cs
  if whole.isEmpty || (whole.head? = some '0' && whole.length ≠ 1) then none
  else if rest.isEmpty then
    some (.integer (if negative then -(decimal whole : Int) else decimal whole))
  else
    let (fraction, rest) := match rest with
      | '.' :: rest => ((spanDigits rest).1, (spanDigits rest).2)
      | rest => ([], rest)
    let pointed := (cs.dropWhile Char.isDigit).head? = some '.'
    if pointed && fraction.isEmpty then none
    else (exponent? rest).map fun e =>
      .real (.ofDecimal negative (decimal (whole ++ fraction)) (e - fraction.length))

/-- A number with its sign. -/
def signed? : List Char → Option Value
  | '-' :: cs => magnitude? true cs
  | cs => magnitude? false cs

/-- The number can be held by binary floating point. -/
def fits : Value → Bool
  | .integer n => (Binary64.ofDecimal false n.natAbs 0).isFinite
  | .real x => x.isFinite
  | _ => true

/-- The value of a word. -/
def word? (w : List Char) : Option Value :=
  if w = "null".toList then some .null
  else if w = "true".toList then some (.bool true)
  else if w = "false".toList then some (.bool false)
  else signed? w

/-! ## Values -/

/-- What a reader does not take. -/
structure Limits where
  /-- How deep lists and tables may be nested. -/
  depth : Nat
  /-- Whether a number may be too large for binary floating point. -/
  hugeNumbers : Bool
deriving DecidableEq, Repr

/-- The limits for text from elsewhere. -/
def Limits.usual : Limits := ⟨1024, false⟩

/-- A list or a table that is still open, with the items before the one being read. -/
inductive Frame
  | list (items : List Value)
  | table (entries : List (String × Value)) (key : String)

/-- What may come next. -/
inductive Expected
  | value
  | valueOrClose
  | key (entries : List (String × Value))
  | keyOrClose
  | colon (entries : List (String × Value)) (key : String)
  /-- A value has been read; it belongs to the innermost frame. -/
  | afterValue (v : Value)

/-- Starts a value with its first token. -/
def begin (limits : Limits) (frames : List Frame) : Token → Option (List Frame × Expected)
  | .text raw => (unescape none raw).map fun s => (frames, .afterValue (.text (.ofList s)))
  | .word w => match word? w with
    | some v => if limits.hugeNumbers || fits v then some (frames, .afterValue v) else none
    | none => none
  | .openList =>
    if frames.length < limits.depth then some (.list [] :: frames, .valueOrClose) else none
  | .openTable =>
    if frames.length < limits.depth then some (.table [] "" :: frames, .keyOrClose) else none
  | _ => none

/-- What a token does. -/
def step (limits : Limits) (frames : List Frame) (expected : Expected) (t : Token) :
    Option (List Frame × Expected) :=
  match expected, t, frames with
  | .value, t, frames => begin limits frames t
  | .valueOrClose, .closeList, .list _ :: frames => some (frames, .afterValue (.list []))
  | .valueOrClose, t, frames => begin limits frames t
  | .keyOrClose, .closeTable, .table _ _ :: frames => some (frames, .afterValue (.table []))
  | .keyOrClose, .text raw, .table _ _ :: frames =>
    (unescape none raw).map fun k => (frames, .colon [] (.ofList k))
  | .key entries, .text raw, frames =>
    (unescape none raw).map fun k => (frames, .colon entries (.ofList k))
  | .colon entries key, .colon, frames => some (.table entries key :: frames, .value)
  | .afterValue v, .comma, .list items :: frames => some (.list (v :: items) :: frames, .value)
  | .afterValue v, .closeList, .list items :: frames =>
    some (frames, .afterValue (.list (v :: items).reverse))
  | .afterValue v, .comma, .table entries key :: frames =>
    some (frames, .key (Value.set key v entries))
  | .afterValue v, .closeTable, .table entries key :: frames =>
    some (frames, .afterValue (.table (Value.set key v entries)))
  | _, _, _ => none

/-- Puts tokens together. -/
def assemble (limits : Limits) : List Frame → Expected → List Token → Option Value
  | [], .afterValue v, [] => some v
  | _, _, [] => none
  | frames, expected, t :: rest => match step limits frames expected t with
    | some (frames, expected) => assemble limits frames expected rest
    | none => none

/-- The value that a text stands for. -/
def read (limits : Limits) (text : List Char) : Option Value :=
  (tokens text).bind (assemble limits [] .value)

/-- The value that the bytes of a text stand for. -/
def ofBytes (limits : Limits) (data : List UInt8) : Option Value :=
  (Utf8.decode data).toOption.bind (read limits)

end GoWorkbench.Json
