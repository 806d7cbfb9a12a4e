/-!
What a search counts and what it records, in the order in which things happen. Events name
symbols by their ids.
-/

namespace Dpll

structure Stats where
  /-- Nodes visited, each with one look at the status. -/
  nodes : Nat := 0
  pureDecisions : Nat := 0
  unitDecisions : Nat := 0
  /-- Symbols guessed without being forced. -/
  branches : Nat := 0
  backtracks : Nat := 0
  deriving DecidableEq, Repr

/-- Why an assignment has no alternative. -/
inductive Reason where
  | pureLiteral
  | unitClause
  deriving DecidableEq, Repr

def Reason.describe : Reason → String
  | pureLiteral => "pure literal"
  | unitClause => "unit clause"

namespace Stats

def countNode (stats : Stats) : Stats :=
  { stats with nodes := stats.nodes + 1 }

def countDecision (reason : Reason) (stats : Stats) : Stats :=
  match reason with
  | .pureLiteral => { stats with pureDecisions := stats.pureDecisions + 1 }
  | .unitClause => { stats with unitDecisions := stats.unitDecisions + 1 }

def countBranch (stats : Stats) : Stats :=
  { stats with branches := stats.branches + 1 }

def countBacktrack (stats : Stats) : Stats :=
  { stats with backtracks := stats.backtracks + 1 }

end Stats

inductive Event where
  /-- A node is about to be looked at, under the assignment of this symbol. -/
  | visit (node : Nat) (mostRecent : Option Nat)
  | force (id : Nat) (value : Bool) (reason : Reason)
  /-- A symbol is about to be tried as true. -/
  | branch (id : Nat)
  | backtrack (id : Nat)
  /-- A symbol that failed as true is about to be tried as false. -/
  | retry (id : Nat)
  | interrupted (nodes : Nat) (cancelled expired : Bool)
  | finished (satisfiable : Bool) (stats : Stats)
  deriving DecidableEq, Repr

end Dpll
