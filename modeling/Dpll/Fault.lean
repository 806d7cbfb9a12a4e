/-!
The ways in which an operation on literals, trails or searches refuses to go on. A search over
the clauses of a file meets none of them; they guard against parts that do not fit together.
-/

namespace Dpll

/-- Why an operation was refused. -/
inductive Fault where
  | emptyTrail
  | alreadyAssigned (id : Nat)
  /-- Clause caches were asked for that no complete pass has brought up to date. -/
  | staleCaches
  /-- The index leaves no room for a sign beside it in a word. -/
  | literalTooLarge
  /-- The search failed with assignments left that it did not make. -/
  | trailNotEmpty
  /-- Every symbol was tried, yet clauses without a verdict remain. -/
  | clausesRemain
  | notInPool (id : Nat)
  | outOfRange (index : Nat)
  deriving DecidableEq, Repr

def Fault.message : Fault → String
  | emptyTrail => "popped an empty trail"
  | alreadyAssigned id => s!"symbol {id} is already assigned"
  | staleCaches => "clause caches read before a complete refresh"
  | literalTooLarge => "symbol index too large for a literal"
  | trailNotEmpty => "assignments are left after a failed search"
  | clausesRemain => "clauses are left but no symbols"
  | notInPool id => s!"forced symbol {id} is not in the pool"
  | outOfRange index => s!"no symbol has index {index}"

end Dpll
