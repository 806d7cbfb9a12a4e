import Dpll.Solution
import Dpll.Search.Budget

/-!
Whole runs of a search. Before every node the search is asked whether it may go on, so that a run
can be cut short between two nodes but nowhere else. Who is asked is a parameter: a clock and a
flag in a running program, a fixed schedule when a run is computed.
-/

namespace Dpll

/-- What a search is told before a node. -/
structure Poll where
  cancelled : Bool := false
  expired : Bool := false
  deriving DecidableEq, Repr

def Poll.stops (poll : Poll) : Bool :=
  poll.cancelled || poll.expired

/-- The poll before a run's first node, its second, and so on. -/
abbrev Schedule := Nat → Poll

namespace Schedule

def unlimited : Schedule := fun _ => {}

def cancelAfter (schedule : Schedule) (nodes : Nat) : Schedule := fun visited =>
  { schedule visited with cancelled := (schedule visited).cancelled || decide (nodes ≤ visited) }

end Schedule

inductive Stop where
  | interrupted (nodes : Nat)
  | fault (fault : Fault)
  deriving DecidableEq, Repr

def Stop.message : Stop → String
  | interrupted nodes => s!"search interrupted after {nodes} nodes"
  | fault f => f.message

namespace Search

/-- Ends a run. A failed search must have undone every assignment. -/
def finish (satisfiable : Bool) : EStateM Stop Search Solution := fun s =>
  let s := s.record (.finished satisfiable s.stats)
  if satisfiable then
    .ok (.ofValuation s.trail.valuation) s
  else if s.trail.isEmpty then
    .ok .unsat s
  else
    .error (.fault .trailNotEmpty) s

inductive Turn where
  | ended (result : EStateM.Result Stop Search Solution)
  | pending (frames : List Frame) (s : Search)

def turn (poll : Poll) (frames : List Frame) (s : Search) : Turn :=
  if poll.stops then
    .ended (.error (.interrupted s.stats.nodes)
      (s.record (.interrupted s.stats.nodes poll.cancelled poll.expired)))
  else
    match advance frames s with
    | .error fault s => .ended (.error (.fault fault) s)
    | .ok (.decided satisfiable) s => .ended (finish satisfiable s)
    | .ok (.pending frames) s => .pending frames s

theorem budget_turn {poll : Poll} {frames frames' : List Frame} {s s' : Search}
    (h : turn poll frames s = .pending frames' s') : budget s' frames' < budget s frames := by
  unfold turn at h
  split at h
  · cases h
  · split at h
    · cases h
    · cases h
    next h' =>
      cases h
      exact budget_advance h'

/-- Goes on from the given frames, with so many nodes of this run behind it. -/
def run {m : Type → Type} [Monad m] (ask : Nat → m Poll) (visited : Nat) (frames : List Frame)
    (s : Search) : m (EStateM.Result Stop Search Solution) := do
  let poll ← ask visited
  match h : turn poll frames s with
  | .ended result => return result
  | .pending frames s => run ask (visited + 1) frames s
termination_by budget s frames
decreasing_by exact budget_turn h

/-- Runs the search while the answers allow it. The trail, the pool and the counts go on from
where an earlier run has left them; the log starts anew. A satisfying assignment stays on the
trail. -/
def solveAsking {m : Type → Type} [Monad m] (ask : Nat → m Poll) (s : Search) :
    m (EStateM.Result Stop Search Solution) :=
  run ask 0 [] { s with log := [] }

def solve (schedule : Schedule) : EStateM Stop Search Solution := fun s =>
  Id.run (s.solveAsking fun visited => pure (schedule visited))

def events (s : Search) : List Event :=
  s.log.reverse

end Search

end Dpll
