import Dpll.File.Error
import Dpll.Formula
import Dpll.Search.Solve

/-!
Everything that can keep a clause file from getting its report.
-/

namespace Dpll

inductive Error where
  | file (error : FileError)
  | parse (error : ParseError)
  | stop (stop : Stop)
  deriving DecidableEq, Repr

namespace Error

def message : Error → String
  | file e => "I/O error: " ++ e.message
  | parse e => e.message
  | stop s => s.message

/-- The text of the error, then that of the failure behind it, if there is one. -/
def chain : Error → List String
  | file e => [(file e).message, e.message]
  | e => [e.message]

end Error

end Dpll
