/-
  Tokens of Go source text.

  The bytes are read as characters with a width, a byte that is not UTF-8 being a character of
  its own that only comments, strings and rune literals can hold.  Tokens are then cut off from
  the left.  Two decisions keep the cutting free of grammar:

  * An operator is not cut off as a whole: every punctuation character is a *mark* of its own that
    knows whether it directly follows the token before it.  `<-` is one operator or two, depending
    on what may stand there, and only the grammar knows.
  * A line end is a token.  It ends a statement where the grammar can end one, and is blank space
    elsewhere.

  Comments are blank space; a line end inside one is not a token.
-/
import GoWorkbench.Pattern
import GoWorkbench.Text.Identifier
import GoWorkbench.Text.Utf8

namespace GoWorkbench.Go

open GoWorkbench.Text

/-- A place in a source: lines and bytes within the line, both from zero. -/
structure Position where
  row : Nat
  column : Nat
deriving DecidableEq, Repr

/-- What a token is. -/
inductive Shape
  | word (name : String)
  | number
  | text
  | rune
  | mark (c : Char)
  | lineEnd
  | nul
  | stray
deriving DecidableEq, Repr

structure Token where
  shape : Shape
  start : Position
  /-- Number of bytes before the token. -/
  offset : Nat
  /-- Nothing lies between the token before and this one. -/
  joined : Bool
deriving DecidableEq, Repr

/-- The words that Go reserves everywhere. -/
def keywords : List String :=
  ["break", "case", "chan", "const", "continue", "default", "defer", "else", "fallthrough", "for",
   "func", "go", "goto", "if", "import", "interface", "map", "package", "range", "return",
   "select", "struct", "switch", "type", "var"]

/-! ## Characters with their widths -/

/-- A character of a source and the number of bytes it takes. -/
structure Glyph where
  char : Char
  width : Nat
deriving DecidableEq, Repr

/-- The characters of a source.  Each byte of a flaw stands for itself. -/
def glyphs (source : List UInt8) : List Glyph :=
  (Utf8.cut 0 source).flatMap fun
    | .char c w => [⟨c, w⟩]
    | .flaw _ w => List.replicate w ⟨'\ufffd', 1⟩

/-- The place after a glyph. -/
def Position.pass (p : Position) (g : Glyph) : Position :=
  if g.char == '\n' then ⟨p.row + 1, 0⟩ else ⟨p.row, p.column + g.width⟩

/-! ## Lexical patterns

  A NUL ends any of them, as it ends a statement. -/

namespace Lexical

open Pattern

def hexDigit : Pattern := .one ⟨false, [('0', '9'), ('a', 'f'), ('A', 'F')]⟩
def octalDigit : Pattern := .one (.range '0' '7')
def binaryDigit : Pattern := .one (.range '0' '1')
def decimalDigit : Pattern := .one (.range '0' '9')

/-- Digits, where an underscore may stand between two of them. -/
def digits (d : Pattern) : Pattern := .seq d (.star (.seq (opt (char '_')) d))

def integer : Pattern :=
  any (all [char '0', anyOf "bB", opt (char '_'), digits binaryDigit])
    [char '0',
     .seq (.one (.range '1' '9')) (opt (.seq (opt (char '_')) (digits decimalDigit))),
     all [char '0', opt (anyOf "oO"), opt (char '_'), digits octalDigit],
     all [char '0', anyOf "xX", opt (char '_'), digits hexDigit]]

def exponent (letters : String) : Pattern :=
  all [anyOf letters, opt (anyOf "+-"), digits decimalDigit]

def floating : Pattern :=
  any (all [digits decimalDigit, char '.', opt (digits decimalDigit), opt (exponent "eE")])
    [.seq (digits decimalDigit) (exponent "eE"),
     all [char '.', digits decimalDigit, opt (exponent "eE")],
     all [char '0', anyOf "xX",
       any (all [opt (char '_'), digits hexDigit, char '.', opt (digits hexDigit)])
         [.seq (opt (char '_')) (digits hexDigit), .seq (char '.') (digits hexDigit)],
       exponent "pP"]]

/-- Integers, floats and imaginary numbers. -/
def number : Pattern :=
  any integer [floating, .seq (any (digits decimalDigit) [integer, floating]) (char 'i')]

/-- A code point written in hexadecimal digits. -/
def unicodeEscape : Pattern :=
  .either (.seq (char 'u') (times 4 hexDigit)) (.seq (char 'U') (times 8 hexDigit))

def rune : Pattern :=
  all [char '\'',
    .either (noneOf "'\\\x00")
      (.seq (char '\\')
        (any (.seq (char 'x') (times 2 hexDigit))
          [times 3 octalDigit, unicodeEscape, anyOf "abfnrtv\\'\""])),
    char '\'']

def lineComment : Pattern := .seq (word "//") (.star (noneOf "\n\x00"))

def blockComment : Pattern :=
  all [word "/*", .star (noneOf "*\x00"), plus (char '*'),
    .star (all [noneOf "/*\x00", .star (noneOf "*\x00"), plus (char '*')]), char '/']

def comment : Pattern := .either lineComment blockComment

def blank : Pattern := anyOf " \t\n\x0b\x0c\r"

def escape : Pattern :=
  .seq (char '\\')
    (any (noneOf "xuU\x00")
      [.seq decimalDigit (.seq decimalDigit (opt decimalDigit)),
       all [char 'x', hexDigit, plus hexDigit],
       unicodeEscape])

/-- Inside quotes a line may end only in front of a comment, and the text goes on right after a
    comment between `/*` and `*/`. -/
def gap : Pattern :=
  all [.star (all [char '\n', .star blank, lineComment]), char '\n', .star blank, blockComment]

def quoted : Pattern := all [char '"', .star (any (noneOf "\"\\\n\x00") [escape, gap]), char '"']

def raw : Pattern := all [char '\x60', .star (noneOf "\x60\x00"), char '\x60']

end Lexical

/-- Blank space within a line. -/
def isBlank (c : Char) : Bool := c ∈ [' ', '\t', '\x0b', '\x0c', '\r']

/-- The marks that Go's operators and brackets are made of. -/
def isMark (c : Char) : Bool := c ∈ "+-*/%&|^<>=!()[]\x7b\x7d,;.:~".toList

/-- What the source begins with: a token's shape, or none for blank space, and how many
    characters belong to it (at least one). -/
def front (g : Glyph) (rest : List Glyph) : Option Shape × Nat :=
  let c := g.char
  let longest (p : Pattern) : Option Nat := p.longest? Glyph.char (g :: rest)
  let shaped (s : Shape) : Option Nat → Option Shape × Nat
    | some n => (some s, n)
    | none => (some .stray, 1)
  if isBlank c then (none, 1)
  else if c == '\n' then (some .lineEnd, 1)
  else if c == '\x00' then (some .nul, 1)
  else if opensIdentifier c then
    let name := c :: (rest.takeWhile fun h => continuesIdentifier h.char).map Glyph.char
    (some (.word (String.ofList name)), name.length)
  else if c == '"' then shaped .text (longest Lexical.quoted)
  else if c == '\x60' then shaped .text (longest Lexical.raw)
  else if c == '\'' then shaped .rune (longest Lexical.rune)
  else match (if c == '/' then longest Lexical.comment else none) with
    | some n => (none, n)
    | none =>
      match (if c == '.' || c.isDigit then longest Lexical.number else none) with
      | some n => (some .number, n)
      | none => (some (if isMark c then .mark c else .stray), 1)

/-- Cuts tokens off a source.  `skip` characters belong to the token before, `joined` says that
    the last thing passed was a token. -/
def tokensFrom (skip : Nat) (joined : Bool) (place : Position) (offset : Nat) :
    List Glyph → List Token
  | [] => []
  | g :: rest => match skip with
    | skip + 1 => tokensFrom skip joined (place.pass g) (offset + g.width) rest
    | 0 => match front g rest with
      | (none, n) => tokensFrom (n - 1) false (place.pass g) (offset + g.width) rest
      | (some .stray, _) => [⟨.stray, place, offset, joined⟩]
      | (some shape, n) =>
        ⟨shape, place, offset, joined⟩ ::
          tokensFrom (n - 1) true (place.pass g) (offset + g.width) rest

/-- The tokens of a source.  A byte order mark at the very start is passed over. -/
def tokens (source : List UInt8) : List Token :=
  match glyphs source with
  | ⟨'\ufeff', w⟩ :: rest => tokensFrom 0 false ⟨0, w⟩ w rest
  | all => tokensFrom 0 false ⟨0, 0⟩ 0 all

end GoWorkbench.Go
