import Dpll.Formula
import Dpll.Search.Event

/-!
Log records: an event with its severity and the part of the program that it comes from.
-/

namespace Dpll

inductive Level where
  | error
  | warn
  | info
  | debug
  | trace
  deriving DecidableEq, Repr

/-- How many levels are as severe as this one. -/
def Level.rank : Level → Nat
  | error => 1
  | warn => 2
  | info => 3
  | debug => 4
  | trace => 5

def Level.name : Level → String
  | error => "ERROR"
  | warn => "WARN"
  | info => "INFO"
  | debug => "DEBUG"
  | trace => "TRACE"

/-- Where a record comes from, under the name by which a filter selects it. -/
inductive Origin where
  | formula
  | solver
  | program
  deriving DecidableEq, Repr

def Origin.path : Origin → String
  | formula => "hamsat::formula"
  | solver => "hamsat::solver"
  | program => "hamsat"

structure Record where
  level : Level
  origin : Origin
  message : String
  /-- What the event was about, by name. -/
  fields : List (String × String) := []
  deriving DecidableEq, Repr

namespace Record

def render (r : Record) : String :=
  r.level.name ++ " " ++ r.origin.path ++ ": " ++ r.message ++
    String.join (r.fields.map fun (name, value) => s!" {name}={value}")

/-- Whether there is a field of this name. The message is a field too. -/
def hasField (r : Record) (name : String) : Bool :=
  name = "message" || r.fields.any (·.1 = name)

def ofSizes (sizes : Formula.Sizes) : Record where
  level := .info
  origin := .formula
  message := "parsed formula"
  fields := [("symbols", toString sizes.symbols), ("clauses", toString sizes.clauses),
    ("trailer_bytes", toString sizes.trailerBytes)]

def ofEvent (event : Event) : Record where
  level := match event with
    | .interrupted .. | .finished .. => .info
    | .force .. | .branch _ | .retry _ => .debug
    | .visit .. | .backtrack _ => .trace
  origin := .solver
  message := match event with
    | .visit .. => "visiting"
    | .force .. => "forcing"
    | .branch _ => "branching"
    | .backtrack _ => "backtracked"
    | .retry _ => "retrying as false"
    | .interrupted .. => "search interrupted"
    | .finished .. => "search finished"
  fields := match event with
    | .visit node recent =>
      [("node", toString node), ("most_recent", recent.elim "none" toString)]
    | .force id value reason =>
      [("symbol", toString id), ("value", toString value), ("reason", reason.describe)]
    | .branch id | .backtrack id | .retry id => [("symbol", toString id)]
    | .interrupted nodes cancelled expired =>
      [("nodes", toString nodes), ("cancelled", toString cancelled),
        ("expired", toString expired)]
    | .finished satisfiable stats =>
      [("satisfiable", toString satisfiable), ("nodes", toString stats.nodes),
        ("pure", toString stats.pureDecisions), ("unit", toString stats.unitDecisions),
        ("branches", toString stats.branches), ("backtracks", toString stats.backtracks)]

def solved (satisfiable : Bool) (milliseconds : Nat) : Record where
  level := .info
  origin := .program
  message := "solved"
  fields := [("satisfiable", toString satisfiable), ("elapsed_ms", toString milliseconds)]

end Record

end Dpll
