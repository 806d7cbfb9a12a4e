import Dpll.ClauseLine
import Dpll.Trail

/-!
Clause files. Each line holds one clause; blank lines count as lines but hold nothing. A line with
the single word `0` ends the clauses, and all that follows it is the trailer, which is kept as it
is but for one line ending at its end.

Symbols are numbered in the order in which their ids first appear. That is done in a first pass over
the lines, which takes words that no clause may have; the clauses are made in a second one.
-/

namespace Dpll

/-- A line that is not blank, without the blanks at its ends. -/
structure Row where
  line : Nat
  text : String
  deriving DecidableEq, Repr

def Row.words (row : Row) : List (List Char) :=
  Text.words row.text.toList

structure Formula where
  valuation : Valuation
  clauses : List Clause
  trailer : String
  deriving DecidableEq, Repr

namespace Formula

def isTerminator (line : List Char) : Bool :=
  Text.trim line = ['0']

/-- The rows in front of the terminator; lines are numbered from 1. -/
def rows (text : List Char) : List Row :=
  (((text.splitOn '\n').takeWhile (!isTerminator ·)).zipIdx 1).filterMap fun (line, number) =>
    match Text.trim line with
    | [] => none
    | line => some ⟨number, String.ofList line⟩

/-- Leaves out one line ending at the end of a text. -/
def dropLineEnding (text : List Char) : List Char :=
  match text.reverse with
  | '\n' :: '\r' :: front => front.reverse
  | '\n' :: front => front.reverse
  | _ => text

def trailerOf (text : List Char) : List Char :=
  dropLineEnding
    (['\n'].intercalate (((text.splitOn '\n').dropWhile (!isTerminator ·)).drop 1))

/-- The id that a word declares, whatever is wrong with its clause. A plus sign is no hindrance. -/
def declared? (word : List Char) : Option Nat :=
  ((Text.signed64? word).filter (· ≠ 0)).map Int.natAbs

/-- Numbers every id that is declared in these rows. -/
def numbering (rows : List Row) : Numbering :=
  .ofList ((rows.flatMap (·.words)).filterMap declared?)

def parse (text : String) : Except ParseError Formula := do
  let rows := rows text.toList
  let t := numbering rows
  let clauses ← rows.mapM fun row => Clause.parse t row.line row.text
  return { valuation := t.valuation, clauses, trailer := String.ofList (trailerOf text.toList) }

/-- The sizes of a formula, the trailer's in bytes. -/
structure Sizes where
  symbols : Nat
  clauses : Nat
  trailerBytes : Nat
  deriving DecidableEq, Repr

def sizes (f : Formula) : Sizes :=
  ⟨f.valuation.size, f.clauses.length, f.trailer.utf8ByteSize⟩

def trail (f : Formula) : Trail :=
  .new f.valuation f.clauses

end Formula

end Dpll
