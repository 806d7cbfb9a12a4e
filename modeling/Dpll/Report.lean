import Dpll.Solution
import Dpll.Search.Event

/-!
The text of an answer: a line for each symbol's value, a line `0`, then the trailer of the clause
file.
-/

namespace Dpll

structure Report where
  solution : Solution
  trailer : String
  stats : Stats := {}
  deriving DecidableEq, Repr

namespace Report

/-- The line for one symbol, as in `12 T`. Symbols left unassigned are reported false. -/
def renderValue (id : Nat) (value : Option Bool) : String :=
  toString id ++ (if value.getD false then " T\n" else " F\n")

def render (r : Report) : String :=
  String.join (r.solution.assignment.map fun (id, value) => renderValue id value) ++ "0\n" ++
    r.trailer

end Report

end Dpll
