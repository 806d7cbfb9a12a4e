import Dpll.Valuation

/-!
The answer of a finished search.
-/

namespace Dpll

inductive Solution where
  | unsat
  /-- Every symbol's id in ascending order, with `none` where either value will do. -/
  | sat (assignment : List (Nat × Option Bool))
  deriving DecidableEq, Repr

namespace Solution

def isSat : Solution → Bool
  | unsat => false
  | sat _ => true

/-- The values of a solution, of which a failed search has none. -/
def assignment : Solution → List (Nat × Option Bool)
  | unsat => []
  | sat assignment => assignment

def value (s : Solution) (id : Nat) : Option Bool :=
  (s.assignment.lookup id).join

def ofValuation (v : Valuation) : Solution :=
  .sat (v.sorted.map fun s => (s.id, s.value))

end Solution

end Dpll
