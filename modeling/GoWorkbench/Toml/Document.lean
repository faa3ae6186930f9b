/-
  A TOML document while it is being read.

  A document is a table of tables.  Beside the values it remembers which tables can no longer be
  opened: those that had a header of their own, and those that were made by dotted keys, once
  the next header has come.  Values written in place, lists and tables alike, can never be
  added to.  Each new element of a list of tables starts without such memories.
-/
import GoWorkbench.Value

namespace GoWorkbench.Toml

/-- The keys that lead to a value from the top. -/
abbrev Key := List String

abbrev Entries := List (String × Value)

/-- Changes the table that the keys lead to.  Tables on the way are made; of a list, the last
    table is meant; anything else is in the way. -/
def inTable (change : Entries → Option Entries) : Key → Entries → Option Entries
  | [], entries => change entries
  | k :: rest, entries => match Value.get? k entries with
    | none => (inTable change rest []).map fun inner => Value.set k (.table inner) entries
    | some (.table inner) =>
      (inTable change rest inner).map fun inner => Value.set k (.table inner) entries
    | some (.list items) => match items.getLast? with
      | some (.table inner) => (inTable change rest inner).map fun inner =>
        Value.set k (.list (items.dropLast ++ [.table inner])) entries
      | _ => none
    | some _ => none

/-- Adds an entry; its key must be new. -/
def addNew (key : String) (v : Value) (entries : Entries) : Option Entries :=
  match Value.get? key entries with
  | some _ => none
  | none => some (Value.set key v entries)

/-- Adds an empty table to the list of a key. -/
def addElement (key : String) (entries : Entries) : Option Entries :=
  match Value.get? key entries with
  | none => some (Value.set key (.list [.table []]) entries)
  | some (.list items) => some (Value.set key (.list (items ++ [.table []])) entries)
  | some _ => none

structure Document where
  entries : Entries := []
  /-- The table that key-value pairs go to. -/
  header : Key := []
  /-- Tables that cannot be opened again. -/
  closed : List Key := []
  /-- Tables that cannot be opened again from the next header on. -/
  closing : List Key := []
  /-- Lists and tables that were written in place. -/
  frozen : List Key := []

namespace Document

/-- The keys lead into something that was written in place. -/
def isFrozen (d : Document) (key : Key) : Bool := d.frozen.any (·.isPrefixOf key)

/-- A header comes: what dotted keys made is closed. -/
def closePending (d : Document) : Document :=
  { d with closed := d.closing ++ d.closed, closing := [] }

/-- Opens the table of a header. -/
def openTable (d : Document) (key : Key) : Option Document :=
  let d := d.closePending
  if key ∈ d.closed || d.isFrozen key then none
  else (inTable some key d.entries).map fun entries =>
    { d with entries, header := key, closed := key :: d.closed }

/-- Opens a new element of a list of tables. -/
def openElement (d : Document) (key : Key) : Option Document :=
  let d := d.closePending
  if d.isFrozen key then none
  else
    let others := fun keys : List Key => keys.filter fun k => !key.isPrefixOf k
    let add := fun entries => match key.getLast? with
      | some last => addElement last entries
      | none => none
    (inTable add key.dropLast d.entries).map fun entries =>
      { d with
        entries, header := key, closed := key :: others d.closed, frozen := others d.frozen }

/-- The keys of the tables that a dotted key goes through, outermost first. -/
def through (header key : Key) : List Key :=
  (List.range (key.length - 1)).map fun n => header ++ key.take (n + 1)

/-- Adds an entry below the header. -/
def add (d : Document) (key : Key) (v : Value) : Option Document :=
  let passed := through d.header key
  if passed.any (· ∈ d.closed) || d.isFrozen (d.header ++ key.dropLast) then none
  else match key.getLast? with
    | none => none
    | some last =>
      (inTable (addNew last v) (d.header ++ key.dropLast) d.entries).map fun entries =>
        { d with
          entries
          closing := passed ++ d.closing
          frozen := match v with
            | .list _ | .table _ => (d.header ++ key) :: d.frozen
            | _ => d.frozen }

/-- Adds an entry to a table written in place; what is below the entry is complete. -/
def addInline (d : Document) (key : Key) (v : Value) : Option Document :=
  if d.isFrozen key then none
  else match key.getLast? with
    | none => none
    | some last => (inTable (addNew last v) key.dropLast d.entries).map fun entries =>
      { d with
        entries
        frozen := match v with
          | .list _ | .table _ => key :: d.frozen
          | _ => d.frozen }

end Document

end GoWorkbench.Toml
