import Dpll.Valuation

/-!
Clauses, each with a cache of what its last refresh found. `Clause.evaluate` reads the value of a
clause off the literals; `Clause.refresh` renews the cache, which also lists the literals that
could still be made true.
-/

namespace Dpll

/-- What a clause was worth when it was last looked at. -/
structure Cache where
  status : Option Bool := none
  /-- The literals without a value, in clause order; none once the clause is true. -/
  unassigned : List Literal := []
  deriving DecidableEq, Repr

structure Clause where
  literals : List Literal
  cache : Cache := {}
  deriving DecidableEq, Repr

namespace Clause

def length (c : Clause) : Nat :=
  c.literals.length

def isEmpty (c : Clause) : Bool :=
  c.literals.isEmpty

/-- A true literal decides a disjunction, and a literal without a value leaves it open. -/
def evaluateLiterals (v : Valuation) : List Literal → Except Fault (Option Bool)
  | [] => .ok (some false)
  | l :: rest => do
    match ← v.evaluate l with
    | some true => return some true
    | some false => evaluateLiterals v rest
    | none =>
      let status ← evaluateLiterals v rest
      return if status = some true then some true else none

/-- The value of the clause, whatever its cache says. -/
def evaluate (v : Valuation) (c : Clause) : Except Fault (Option Bool) :=
  evaluateLiterals v c.literals

/-- What the literals up to the first true one amount to. A literal outside the valuation ends
the scan too: the cache then covers the literals before it, and the fault says why. -/
def scan (v : Valuation) : List Literal → Cache × Option Fault
  | [] => ({ status := some false }, none)
  | l :: rest =>
    match v.evaluate l with
    | .error fault => ({ status := some false }, some fault)
    | .ok (some true) => ({ status := some true }, none)
    | .ok (some false) => scan v rest
    | .ok none =>
      match scan v rest with
      | (⟨some true, _⟩, fault) => ({ status := some true }, fault)
      | (⟨_, unassigned⟩, fault) => ({ unassigned := l :: unassigned }, fault)

def refresh (v : Valuation) : EStateM Fault Clause (Option Bool) := fun c =>
  match scan v c.literals with
  | (cache, none) => .ok cache.status { c with cache }
  | (cache, some fault) => .error fault { c with cache }

def render (v : Valuation) (c : Clause) : Except Fault String :=
  " ".intercalate <$> c.literals.mapM v.render

end Clause

end Dpll
