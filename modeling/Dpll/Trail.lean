import Dpll.Clause

/-!
The trail is the stack of assignments made so far, over the symbols and clauses that they affect.
Assigning and undoing touch no clause; the next request for the status sweeps over the clauses,
and stops at the first false one. Requests in between cost nothing.
-/

namespace Dpll

/-- What a sweep over a list of clauses left behind. -/
structure Sweep where
  clauses : List Clause
  /-- How many clauses were refreshed. -/
  refreshed : Nat
  status : Except Fault (Option Bool)

/-- Refreshes the clauses up to the first false one, or up to one that is out of range. -/
def Sweep.ofClauses (v : Valuation) : List Clause → Sweep
  | [] => ⟨[], 0, .ok (some true)⟩
  | c :: rest =>
    match c.refresh v with
    | .error fault c => ⟨c :: rest, 1, .error fault⟩
    | .ok (some false) c => ⟨c :: rest, 1, .ok (some false)⟩
    | .ok (some true) c =>
      let sweep := ofClauses v rest
      ⟨c :: sweep.clauses, sweep.refreshed + 1, sweep.status⟩
    | .ok none c =>
      let sweep := ofClauses v rest
      ⟨c :: sweep.clauses, sweep.refreshed + 1,
        sweep.status.map fun status => if status = some false then some false else none⟩

/-- Whether the clause caches belong to the present values. -/
inductive Freshness where
  /-- The values have changed since the last sweep, or there was none. -/
  | stale
  /-- The last sweep saw the present values and came to this status; if it is false, the caches
  behind the false clause are older. -/
  | swept (status : Option Bool)
  deriving DecidableEq, Repr

structure Entry where
  symbol : Nat
  value : Bool
  deriving DecidableEq, Repr

structure Trail where
  valuation : Valuation
  clauses : List Clause
  /-- The assignments, the most recent first. -/
  entries : List Entry := []
  freshness : Freshness := .stale
  recomputations : Nat := 0
  deriving DecidableEq, Repr

namespace Trail

def new (valuation : Valuation) (clauses : List Clause) : Trail :=
  { valuation, clauses }

def length (t : Trail) : Nat :=
  t.entries.length

def isEmpty (t : Trail) : Bool :=
  t.entries.isEmpty

def mostRecent (t : Trail) : Option Nat :=
  t.entries.head?.map fun e => t.valuation.idAt e.symbol

def push (symbol : Nat) (value : Bool) : EStateM Fault Trail Unit := fun t =>
  match t.valuation.symbolAt symbol with
  | .error fault => .error fault t
  | .ok ⟨id, some _⟩ => .error (.alreadyAssigned id) t
  | .ok ⟨_, none⟩ =>
    .ok () { t with
      valuation := t.valuation.set symbol (some value)
      entries := ⟨symbol, value⟩ :: t.entries
      freshness := .stale }

def pop : EStateM Fault Trail Nat := fun t =>
  match t.entries with
  | [] => .error .emptyTrail t
  | ⟨symbol, _⟩ :: entries =>
    .ok symbol { t with
      valuation := t.valuation.set symbol none
      entries
      freshness := .stale }

/-- A verdict on the clauses counts only once something is assigned. -/
def verdict (t : Trail) (status : Option Bool) : Option Bool :=
  if t.isEmpty then none else status

/-- False if a clause is false and true if all are true, and neither before the first
assignment. Sweeps over the clauses if the values have changed. -/
def status : EStateM Fault Trail (Option Bool) := fun t =>
  match t.freshness with
  | .swept status => .ok (t.verdict status) t
  | .stale =>
    let sweep := Sweep.ofClauses t.valuation t.clauses
    let t := { t with
      clauses := sweep.clauses
      recomputations := t.recomputations + sweep.refreshed }
    match sweep.status with
    | .error fault => .error fault t
    | .ok status => .ok (t.verdict status) { t with freshness := .swept status }

/-- The clauses that are not true yet, in input order, as long as every cache is current. -/
def openClauses (t : Trail) : Except Fault (List Clause) :=
  match t.freshness with
  | .stale | .swept (some false) => .error .staleCaches
  | .swept _ => .ok (t.clauses.filter (·.cache.status ≠ some true))

end Trail

end Dpll
