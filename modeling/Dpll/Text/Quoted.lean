import Dpll.Text.Unprintable

/-!
Text between quotes on one line, in which every character can be seen.
-/

namespace Dpll.Text

def escape (c : Char) : List Char :=
  if c = '\x00' then ['\\', '0']
  else if c = '\t' then ['\\', 't']
  else if c = '\r' then ['\\', 'r']
  else if c = '\n' then ['\\', 'n']
  else if c = '"' ∨ c = '\\' then ['\\', c]
  else if isPrintable c then [c]
  else ['\\', 'u', '\x7b'] ++ Nat.toDigits 16 c.toNat ++ ['\x7d']

def quote (cs : List Char) : List Char :=
  '"' :: cs.flatMap escape ++ ['"']

end Dpll.Text
