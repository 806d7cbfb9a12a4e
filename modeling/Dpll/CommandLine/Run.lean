import Dpll.CommandLine.Toolkit
import Dpll.Host

/-!
The program: it reads the clause file that its arguments name, searches for an answer and writes
the report. Nothing is written before all else has succeeded. What its libraries do is a parameter.
-/

namespace Dpll.CommandLine

inductive Failure where
  | reading (path : String) (error : Error)
  | searching (stop : Stop)
  | writing (path : String) (error : FileError)
  deriving DecidableEq, Repr

namespace Failure

def context : Failure → String
  | reading path _ => s!"could not read clauses from {path}"
  | searching _ => "search did not finish"
  | writing path _ => s!"could not write {path}"

def error : Failure → Error
  | reading _ e => e
  | searching s => .stop s
  | writing _ e => .file e

/-- From the outermost one to its causes. -/
def messages (f : Failure) : List String :=
  f.context :: f.error.chain

/-- Faults are errors of the program itself and not of what it was given. -/
def exitCode : Failure → UInt32
  | searching (.fault _) => 101
  | _ => 1

end Failure

variable {m : Type → Type} [Monad m]

def logAll (host : Host m) (filter : Filter) (records : List Record) : m Unit :=
  (records.filter filter).forM fun record => host.notify (.log record)

def printStats (host : Host m) (stats : Stats) : m Unit := do
  host.notify (.statistic "nodes" stats.nodes)
  host.notify (.statistic "pure" stats.pureDecisions)
  host.notify (.statistic "unit" stats.unitDecisions)
  host.notify (.statistic "branches" stats.branches)
  host.notify (.statistic "backtracks" stats.backtracks)
  host.notify (.solvedIn (← host.elapsed))

/-- Everything up to the report: reading the file and searching for an answer. -/
def prepare (host : Host m) (filter : Filter) (options : Options) :
    m (Except Failure Report) := do
  match ← Formula.readFile host options.input with
  | .error e => return .error (.reading options.input e)
  | .ok formula =>
    logAll host filter [.ofSizes formula.sizes]
    let (report, search) ← formula.solveWithin host options.timeout
    logAll host filter (search.events.map .ofEvent)
    return report.mapError .searching

def execute (host : Host m) (filter : Filter) (options : Options) :
    m (Except Failure Unit) := do
  match ← prepare host filter options with
  | .error failure => return .error failure
  | .ok report =>
    if options.stats then printStats host report.stats
    match ← report.writeFile host options.output with
    | .error e => return .error (.writing options.output e)
    | .ok () =>
      logAll host filter [.solved report.solution.isSat (← host.elapsed)]
      return .ok ()

/-- Runs the program with a setting for the log filter and its arguments. The result is the exit
code. -/
def run (kit : Toolkit) (host : Host m) (setting : Option String) (args : List String) :
    m UInt32 := do
  match kit.request args with
  | .refuse reason =>
    host.notify (.usage reason)
    return 2
  | .display text =>
    host.print text
    return 0
  | .run options =>
    match ← execute host (kit.filter setting options.verbosity) options with
    | .ok () => return 0
    | .error failure =>
      host.notify (.failure (kit.layout failure.messages))
      return failure.exitCode

end Dpll.CommandLine
