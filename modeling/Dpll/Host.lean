import Dpll.Error
import Dpll.Log.Record
import Dpll.Report

/-!
From a file with clauses to a file with the report. What a running program gets from its
surroundings is a `Host`: files to read and write, a clock, and somebody to talk to.
-/

namespace Dpll

inductive Notice where
  | log (record : Record)
  /-- One of the counts of a finished search. -/
  | statistic (name : String) (count : Nat)
  | solvedIn (milliseconds : Nat)
  | failure (text : String)
  | usage (text : String)
  deriving DecidableEq, Repr

def Notice.render : Notice → String
  | log record => record.render
  | statistic name count => "c " ++ String.ofList (name.toList.rightpad 12 ' ') ++ toString count
  | solvedIn milliseconds => s!"c solved in {milliseconds}ms"
  | failure text | usage text => text

structure Host (m : Type → Type) where
  read : String → m (Except FileError ByteArray)
  /-- Replaces what a file held before. -/
  write : String → ByteArray → m (Except FileError Unit)
  /-- Starts a clock that runs for so many seconds, or for ever, and that can then be asked before
  each node whether the search may go on. -/
  startClock : Option Nat → m (Nat → m Poll)
  elapsed : m Nat
  print : String → m Unit
  notify : Notice → m Unit

def decodeText (bytes : ByteArray) : Except FileError String :=
  match String.fromUTF8? bytes with
  | some text => .ok text
  | none => .error .invalidText

namespace Formula

variable {m : Type → Type} [Monad m]

def decode (bytes : ByteArray) : Except Error Formula := do
  let text ← (decodeText bytes).mapError .file
  (parse text).mapError .parse

def readFile (host : Host m) (path : String) : m (Except Error Formula) := do
  match ← host.read path with
  | .error e => return .error (.file e)
  | .ok bytes => return decode bytes

/-- Searches for an answer while the schedule allows it. -/
def solve (schedule : Schedule) (f : Formula) : Except Stop Report :=
  match (Search.new f.trail).solve schedule with
  | .ok solution s => .ok ⟨solution, f.trailer, s.stats⟩
  | .error stop _ => .error stop

/-- Searches for an answer within so many seconds. The search is returned too, for its log. -/
def solveWithin (host : Host m) (timeout : Option Nat) (f : Formula) :
    m (Except Stop Report × Search) := do
  let ask ← host.startClock timeout
  match ← (Search.new f.trail).solveAsking ask with
  | .ok solution s => return (.ok ⟨solution, f.trailer, s.stats⟩, s)
  | .error stop s => return (.error stop, s)

end Formula

namespace Report

variable {m : Type → Type}

def bytes (r : Report) : ByteArray :=
  r.render.toUTF8

def writeFile (host : Host m) (path : String) (r : Report) : m (Except FileError Unit) :=
  host.write path r.bytes

/-- The report on a text, however long the search takes. -/
def ofText (text : String) : Except Error Report := do
  let f ← (Formula.parse text).mapError .parse
  (f.solve .unlimited).mapError .stop

def ofFile [Monad m] (host : Host m) (timeout : Option Nat) (path : String) :
    m (Except Error Report) := do
  match ← Formula.readFile host path with
  | .error e => return .error e
  | .ok f =>
    let (report, _) ← f.solveWithin host timeout
    return report.mapError .stop

end Report

end Dpll
