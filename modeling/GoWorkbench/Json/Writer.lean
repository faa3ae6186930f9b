/-
  Writing JSON.

  Only the quote, the backslash and the control characters are escaped, the latter by a letter
  where there is one.  The compact form has no blanks; the indented form gives each entry of a
  table a line of its own, two spaces in.
-/
import GoWorkbench.Text.Quoted
import GoWorkbench.Value

namespace GoWorkbench.Json

open GoWorkbench.Text

/-- One character of a text. -/
def escapeChar (c : Char) : List Char :=
  if c = '"' then ['\\', '"']
  else if c = '\\' then ['\\', '\\']
  else if c = '\n' then ['\\', 'n']
  else if c = '\t' then ['\\', 't']
  else if c = '\r' then ['\\', 'r']
  else if c = '\x08' then ['\\', 'b']
  else if c = '\x0c' then ['\\', 'f']
  else if c.toNat < 0x20 then '\\' :: 'u' :: hexDigits 4 c.toNat
  else [c]

/-- A text in quotes. -/
def text (s : String) : String :=
  String.ofList ('"' :: s.toList.flatMap escapeChar ++ ['"'])

mutual

/-- The compact form of a value.  What JSON cannot hold, and the reals, which are only read here
    and never written, are `null`. -/
def compact : Value → String
  | .null => "null"
  | .bool b => if b then "true" else "false"
  | .integer n => toString n
  | .real _ => "null"
  | .text s => text s
  | .moment => "null"
  | .list items => "[" ++ String.intercalate "," (compactItems items) ++ "]"
  | .table entries => "\x7b" ++ String.intercalate "," (compactEntries entries) ++ "\x7d"

def compactItems : List Value → List String
  | [] => []
  | v :: rest => compact v :: compactItems rest

def compactEntries : List (String × Value) → List String
  | [] => []
  | (key, v) :: rest => (text key ++ ":" ++ compact v) :: compactEntries rest

end

/-- A table with a line for each entry; the values themselves stay compact. -/
def indented (entries : List (String × Value)) : String :=
  if entries.isEmpty then "\x7b\x7d"
  else
    let line := fun (key, v) => "  " ++ text key ++ ": " ++ compact v
    "\x7b\n" ++ String.intercalate ",\n" (entries.map line) ++ "\n\x7d"

end GoWorkbench.Json
