import Dpll.Trail
import Dpll.Search.Decision

/-!
One step of the search, which decides satisfiability by trying assignments one after the other.
Its state is a trail, the pool of symbols left to choose from, the counts and the log. The
assignments that the search has made and not yet undone are its frames, the latest first; a frame
remembers whether there is an alternative to its assignment.

`Search.visit` looks at one node, `Search.unwind` takes a verdict back up to the next alternative,
and `Search.advance` does the one and, where there is a verdict, the other.
-/

namespace Dpll

/-- An assignment of the search that is still in force. -/
inductive Frame where
  /-- The value was forced, so there is nothing else to try. -/
  | forced (symbol : Nat)
  /-- The symbol was guessed true, and false is still to be tried. -/
  | tryTrue (symbol : Nat)
  /-- The symbol is false because true has failed. -/
  | tryFalse (symbol : Nat)
  deriving DecidableEq, Repr

def Frame.symbol : Frame → Nat
  | forced symbol | tryTrue symbol | tryFalse symbol => symbol

structure Search where
  trail : Trail
  /-- The symbols to choose from. Branching takes the first; a symbol that is done with goes back
  to the end. -/
  pool : List Nat
  stats : Stats := {}
  /-- The events of the present run, the latest first. -/
  log : List Event := []
  deriving DecidableEq, Repr

namespace Search

def new (trail : Trail) : Search :=
  { trail, pool := List.range trail.valuation.size }

def record (event : Event) (s : Search) : Search :=
  { s with log := event :: s.log }

def count (f : Stats → Stats) (s : Search) : Search :=
  { s with stats := f s.stats }

def take (symbol : Nat) (s : Search) : Search :=
  { s with pool := s.pool.erase symbol }

def release (symbol : Nat) (s : Search) : Search :=
  { s with pool := s.pool ++ [symbol] }

def idAt (s : Search) (symbol : Nat) : Nat :=
  s.trail.valuation.idAt symbol

def onTrail {α : Type} (act : EStateM Fault Trail α) : EStateM Fault Search α := fun s =>
  match act s.trail with
  | .ok a trail => .ok a { s with trail }
  | .error fault trail => .error fault { s with trail }

/-- What a visit comes to: a verdict, or an assignment to go on with. -/
inductive Outcome where
  | verdict (satisfiable : Bool)
  | descend (frame : Frame)
  deriving DecidableEq, Repr

def enter (s : Search) : Search :=
  (s.count .countNode).record (.visit (s.stats.nodes + 1) s.trail.mostRecent)

def assign (frame : Frame) (value : Bool) : EStateM Fault Search Outcome := fun s =>
  match onTrail (Trail.push frame.symbol value) s with
  | .error fault s => .error fault s
  | .ok _ s => .ok (.descend frame) s

/-- Makes a literal true and takes its symbol out of the pool. -/
def force (l : Literal) (reason : Reason) : EStateM Fault Search Outcome := fun s =>
  if l.symbol ∈ s.pool then
    assign (.forced l.symbol) l.sign.satisfying
      (((s.count (.countDecision reason)).take l.symbol).record
        (.force (s.idAt l.symbol) l.sign.satisfying reason))
  else
    .error (.notInPool (s.idAt l.symbol)) (s.count (.countDecision reason))

/-- Guesses that the first symbol of the pool is true. With an empty pool and no clauses there is
nothing left to satisfy. -/
def branch : EStateM Fault Search Outcome := fun s =>
  match s.pool with
  | [] => if s.trail.clauses.isEmpty then .ok (.verdict true) s else .error .clausesRemain s
  | symbol :: _ =>
    assign (.tryTrue symbol) true
      (((s.take symbol).count .countBranch).record (.branch (s.idAt symbol)))

def visit : EStateM Fault Search Outcome := fun s =>
  match onTrail Trail.status s.enter with
  | .error fault s => .error fault s
  | .ok (some satisfiable) s => .ok (.verdict satisfiable) s
  | .ok none s =>
    match s.trail.openClauses with
    | .error fault => .error fault s
    | .ok clauses =>
      match Decision.choose s.trail.valuation.size s.pool clauses with
      | .force l reason => force l reason s
      | .branch => branch s

def backtrack : EStateM Fault Search Unit := fun s =>
  match onTrail Trail.pop s with
  | .error fault s => .error fault s
  | .ok symbol s => .ok () ((s.count .countBacktrack).record (.backtrack (s.idAt symbol)))

/-- Undoes a guess of true and assigns false instead. -/
def retry (symbol : Nat) : EStateM Fault Search Unit := fun s =>
  match backtrack s with
  | .error fault s => .error fault s
  | .ok _ s => onTrail (Trail.push symbol false) (s.record (.retry (s.idAt symbol)))

/-- Takes a verdict up through the frames. A failure stops at the first guess of true, which is
turned into false: the result is then the frames to go on with. Otherwise no frame is left. -/
def unwind (satisfiable : Bool) : List Frame → EStateM Fault Search (Option (List Frame))
  | [], s => .ok none s
  | .tryTrue symbol :: frames, s =>
    if satisfiable then unwind satisfiable frames s
    else match retry symbol s with
      | .error fault s => .error fault s
      | .ok _ s => .ok (some (.tryFalse symbol :: frames)) s
  | .forced symbol :: frames, s | .tryFalse symbol :: frames, s =>
    if satisfiable then unwind satisfiable frames (s.release symbol)
    else match backtrack (s.release symbol) with
      | .error fault s => .error fault s
      | .ok _ s => unwind satisfiable frames s

inductive Progress where
  | pending (frames : List Frame)
  | decided (satisfiable : Bool)
  deriving DecidableEq, Repr

/-- Visits a node and, if that gives a verdict, goes back to the next alternative. -/
def advance (frames : List Frame) : EStateM Fault Search Progress := fun s =>
  match visit s with
  | .error fault s => .error fault s
  | .ok (.descend frame) s => .ok (.pending (frame :: frames)) s
  | .ok (.verdict satisfiable) s =>
    match unwind satisfiable frames s with
    | .error fault s => .error fault s
    | .ok none s => .ok (.decided satisfiable) s
    | .ok (some frames) s => .ok (.pending frames) s

end Search

end Dpll
