/-
  Values as configuration files and messages hold them.

  A table keeps its keys in the order in which they were first given; a key that is given again
  takes the later value and keeps its place.
-/
import GoWorkbench.Binary64

namespace GoWorkbench

inductive Value
  | null
  | bool (b : Bool)
  | integer (n : Int)
  | real (x : Binary64)
  | text (s : String)
  /-- A date, a time or both; nothing asks which. -/
  | moment
  | list (items : List Value)
  | table (entries : List (String × Value))

namespace Value

/-- The entries with `v` for `key`. -/
def set (key : String) (v : Value) : List (String × Value) → List (String × Value)
  | [] => [(key, v)]
  | (k, w) :: rest => if k = key then (key, v) :: rest else (k, w) :: set key v rest

/-- The value of a key. -/
def get? (key : String) (entries : List (String × Value)) : Option Value := entries.lookup key

end Value

end GoWorkbench
