/-
  The symbol index of a workspace.

  The index holds the result of one complete scan.  A rebuild has three steps: it takes a
  number, it scans, and it publishes what it found — unless a rebuild with a higher number has
  published before, in which case the result is discarded.  Other rebuilds may take their steps
  in between, so the scan that was started last wins, whichever ends last.
-/
import GoWorkbench.Scan.Sources

namespace GoWorkbench

structure SymbolIndex where
  options : Scan.Options
  /-- The number that was taken last. -/
  started : Nat := 0
  /-- The number of the rebuild whose result is held. -/
  published : Nat := 0
  snapshot : List Go.Symbol := []

namespace SymbolIndex

/-- The name that the index reports under. -/
def source : String := "index.symbols"

/-- Takes the next number. -/
def take (index : SymbolIndex) : Nat × SymbolIndex :=
  (index.started + 1, { index with started := index.started + 1 })

/-- The two assignments of a publication, in their order. -/
def hold (index : SymbolIndex) (symbols : List Go.Symbol) : SymbolIndex :=
  { index with snapshot := symbols }

def announce (index : SymbolIndex) (number : Nat) : SymbolIndex :=
  { index with published := number }

/-- Publishes the result of a rebuild, or discards it; says whether it was published. -/
def publish (index : SymbolIndex) (number : Nat) (symbols : List Go.Symbol) :
    Bool × SymbolIndex :=
  if number < index.published then (false, index)
  else (true, (index.hold symbols).announce number)

/-- Starts a rebuild: takes its number and reports it. -/
def start (index : SymbolIndex) (h : Host) (root : String) : Nat × SymbolIndex × Host :=
  let (number, index) := index.take
  (number, index, h.report .info source s!"Indexing symbols in: {Path.plain root}")

/-- Ends a rebuild with what its scan found. -/
def finish (index : SymbolIndex) (h : Host) (root : String) (number : Nat)
    (symbols : List Go.Symbol) : Bool × SymbolIndex × Host :=
  let (fresh, after) := index.publish number symbols
  let message :=
    if fresh then s!"Indexed {symbols.length} symbols"
    else s!"Discarding stale index of {Path.plain root} (generation {number} < {index.published})"
  (fresh, after, h.report .info source message)

/-- A whole rebuild; says whether its result was published. -/
def rebuild (index : SymbolIndex) (h : Host) (root : String) :
    Except Failure Bool × SymbolIndex × Host :=
  let (number, index, h) := index.start h root
  match Scan.symbols h index.options root with
  | .error e => (.error e, index, h)
  | .ok symbols =>
    let (fresh, index, h) := index.finish h root number symbols
    (.ok fresh, index, h)

/-- A rebuild that nobody waits for: its failure is only reported. -/
def rebuildUnattended (index : SymbolIndex) (h : Host) (root : String) : SymbolIndex × Host :=
  match index.rebuild h root with
  | (.error _, index, h) =>
    (index, h.report .error source s!"Symbol index rebuild of {Path.plain root} failed")
  | (.ok _, index, h) => (index, h)

end SymbolIndex

end GoWorkbench
