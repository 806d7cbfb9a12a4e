import Dpll.Log.Directive

/-!
Which log records a list of directives shows. The most specific one that is about a record decides,
and of two alike the later one.
-/

namespace Dpll.Directive

/-- Reads directives between commas; without any, only errors are shown. -/
def parseAll? (text : String) : Option (List Directive) := do
  let parts := (text.toList.splitOn ',').filter (· ≠ [])
  let directives ← parts.mapM parse?
  return if directives.isEmpty then [{ rank := Level.error.rank }] else directives

/-- The directive that decides about a record. -/
def decisive? (directives : List Directive) (record : Record) : Option Directive :=
  (directives.filter (·.selects record)).foldl (fun best d =>
    match best with
    | some b => if d.outranks b then some d else some b
    | none => some d) none

def shows (directives : List Directive) (record : Record) : Bool :=
  (decisive? directives record).any fun d => record.level.rank ≤ d.rank

end Dpll.Directive
