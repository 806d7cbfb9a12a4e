import Dpll.Clause
import Dpll.Numbering
import Dpll.Text.Blank
import Dpll.Text.Numeral
import Dpll.Text.Quoted

/-!
Clauses as lines of text: signed ids between blanks. The first word that is no id, or
the id of no symbol, is the error of its line.
-/

namespace Dpll

/-- Why a line is no clause, with its number. -/
inductive ParseError where
  | undeclaredSymbol (line id : Nat)
  | malformedToken (line : Nat) (token : List Char)
  | emptyClause (line : Nat)
  deriving DecidableEq, Repr

def ParseError.message : ParseError → String
  | undeclaredSymbol line id => s!"line {line}: symbol {id} is not declared"
  | malformedToken line token =>
    s!"line {line}: malformed literal " ++ String.ofList (Text.quote token)
  | emptyClause line => s!"line {line}: clause has no literals"

structure SignedId where
  sign : Sign
  id : Nat
  deriving DecidableEq, Repr

/-- The magnitude from which on a number needs more than 63 bits. -/
def SignedId.limit : Nat := 0x8000000000000000

/-- A number that is not zero, taken apart. -/
def SignedId.ofInt (x : Int) : SignedId where
  sign := .ofBool (0 < x)
  id := x.natAbs

/-- Reads a word as a number other than zero. It must not start with a plus sign, which would be
lost when the number is written again. -/
def SignedId.ofWord? (word : List Char) : Option SignedId :=
  if word.head? = some '+' then none
  else ((Text.signed64? word).filter (· ≠ 0)).map ofInt

namespace Clause

def literalOfWord (t : Numbering) (line : Nat) (word : List Char) : Except ParseError Literal :=
  match SignedId.ofWord? word with
  | none => .error (.malformedToken line word)
  | some ⟨sign, id⟩ =>
    match t.index? id with
    | none => .error (.undeclaredSymbol line id)
    | some index => .ok (.pack index sign)

def ofWords (t : Numbering) (line : Nat) (words : List (List Char)) :
    Except ParseError Clause := do
  let literals ← words.mapM (literalOfWord t line)
  if literals.isEmpty then throw (.emptyClause line)
  return { literals }

def parse (t : Numbering) (line : Nat) (text : String) : Except ParseError Clause :=
  ofWords t line (Text.words text.toList)

end Clause

end Dpll
