/-!
Decimal numbers in text, with ASCII digits only.
-/

namespace Dpll.Text

/-- The number that these digits spell. There has to be one, and nothing else; zeros in front
are allowed. -/
def natural? (cs : List Char) : Option Nat :=
  if cs ≠ [] ∧ cs.all Char.isDigit then some (Nat.ofDigitChars 10 cs 0) else none

/-- A number with an optional plus sign that fits into an unsigned word of 64 bits. -/
def unsigned64? (cs : List Char) : Option Nat :=
  let digits := match cs with
    | '+' :: digits => digits
    | digits => digits
  (natural? digits).filter (· < UInt64.size)

/-- A number with an optional sign. -/
def integer? : List Char → Option Int
  | '-' :: digits => (natural? digits).map fun n : Nat => -(n : Int)
  | '+' :: digits | digits => (natural? digits).map fun n : Nat => (n : Int)

/-- A number with an optional sign that fits into a signed word of 64 bits. -/
def signed64? (cs : List Char) : Option Int :=
  (integer? cs).filter fun x => -0x8000000000000000 ≤ x ∧ x < 0x8000000000000000

/-- Whether a text is a number, perhaps with a decimal point and an exponent. A digit has to stand
on one side of the point. -/
def isDecimal (cs : List Char) : Bool :=
  let (whole, rest) := cs.span Char.isDigit
  let (fraction, rest) := match rest with
    | '.' :: rest => rest.span Char.isDigit
    | rest => ([], rest)
  let exponentEnds := match rest with
    | [] => true
    | e :: '+' :: digits | e :: '-' :: digits | e :: digits =>
      e.toLower = 'e' ∧ (natural? digits).isSome
  (whole ≠ [] ∨ fraction ≠ []) && exponentEnds

/-- Whether a text is a number with an optional sign, or the name of one that has no digits. -/
def isReal (cs : List Char) : Bool :=
  let magnitude := match cs with
    | '+' :: magnitude | '-' :: magnitude => magnitude
    | magnitude => magnitude
  isDecimal magnitude ||
    magnitude.map Char.toLower ∈ ["inf".toList, "infinity".toList, "nan".toList]

end Dpll.Text
