/-
  What the program reports while it works.
-/
namespace GoWorkbench

/-- How important a report is, from the least to the most. -/
inductive LogLevel
  | debug
  | info
  | warning
  | error
deriving DecidableEq, Repr

namespace LogLevel

def name : LogLevel → String
  | .debug => "DEBUG"
  | .info => "INFO"
  | .warning => "WARNING"
  | .error => "ERROR"

def rank : LogLevel → Nat
  | .debug => 0
  | .info => 1
  | .warning => 2
  | .error => 3

/-- The levels by their names. -/
def named : List (String × LogLevel) := [.debug, .info, .warning, .error].map fun l => (l.name, l)

end LogLevel

/-- One report: how important, by which part of the program, and what. -/
structure LogRecord where
  level : LogLevel
  source : String
  message : String
deriving DecidableEq, Repr

/-- The reports from a level up. -/
def fromLevel (least : LogLevel) (log : List LogRecord) : List LogRecord :=
  log.filter fun r => least.rank ≤ r.level.rank

end GoWorkbench
