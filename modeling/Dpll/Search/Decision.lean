import Dpll.Clause
import Dpll.Search.Event

/-!
How a search goes on from a node without a verdict. A literal is pure if its symbol occurs with
one sign only among the unassigned literals of the open clauses. The first symbol of the pool
with a pure literal is forced; else the literal that is alone in the first such open clause is;
else the search has to branch.
-/

namespace Dpll

inductive Decision where
  | force (literal : Literal) (reason : Reason)
  | branch
  deriving DecidableEq, Repr

inductive Occurrence where
  | absent
  | oneSign (literal : Literal)
  | bothSigns
  deriving DecidableEq, Repr

def Occurrence.add (l : Literal) : Occurrence → Occurrence
  | absent => oneSign l
  | oneSign k => if k = l then oneSign k else bothSigns
  | bothSigns => bothSigns

/-- What one pass over the open clauses finds out. -/
structure Census where
  occurrences : Array Occurrence
  /-- The literal of the first clause that has only one left. -/
  unit : Option Literal := none

namespace Census

def addLiteral (occurrences : Array Occurrence) (l : Literal) : Array Occurrence :=
  occurrences.modify l.symbol (·.add l)

def addClause (census : Census) (c : Clause) : Census where
  occurrences := c.cache.unassigned.foldl addLiteral census.occurrences
  unit := census.unit <|> match c.cache.unassigned with
    | [l] => some l
    | _ => none

def ofClauses (symbols : Nat) (clauses : List Clause) : Census :=
  clauses.foldl addClause { occurrences := .replicate symbols .absent }

def pureLiteral? (census : Census) (symbol : Nat) : Option Literal :=
  match census.occurrences[symbol]? with
  | some (.oneSign l) => some l
  | _ => none

end Census

/-- The choice for a pool of symbols and the open clauses over so many symbols. -/
def Decision.choose (symbols : Nat) (pool : List Nat) (openClauses : List Clause) : Decision :=
  let census := Census.ofClauses symbols openClauses
  match pool.findSome? census.pureLiteral?, census.unit with
  | some l, _ => .force l .pureLiteral
  | none, some l => .force l .unitClause
  | none, none => .branch

end Dpll
