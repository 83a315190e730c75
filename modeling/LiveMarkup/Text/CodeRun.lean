/-!
# Runs of code points

The tables of character properties are lists of runs: code points at equal steps
from a first to a last one.  A run with a step of two covers the blocks in which
capitals and small letters alternate.
-/

namespace LiveMarkup.Text

/-- The code points `first`, `first + step`, … up to `last`. -/
structure CodeRun where
  first : Nat
  last : Nat
  step : Nat
deriving DecidableEq, Repr

/-- Whether a code point belongs to the run. -/
def CodeRun.contains (run : CodeRun) (code : Nat) : Bool :=
  run.first ≤ code && code ≤ run.last && (code - run.first) % run.step == 0

/-- Whether a code point belongs to one of the runs of a table. -/
def inRuns (table : List CodeRun) (code : Nat) : Bool :=
  table.any (·.contains code)

/-- A run whose members all map to the code point at one distance from
themselves. -/
structure CodeShift where
  run : CodeRun
  distance : Int
deriving DecidableEq, Repr

/-- The image of a code point under a table of shifts, if one of its runs
contains it. -/
def shifted? (table : List CodeShift) (code : Nat) : Option Nat :=
  (table.find? (·.run.contains code)).map fun shift =>
    (Int.ofNat code + shift.distance).toNat

end LiveMarkup.Text
