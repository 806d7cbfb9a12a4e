import Dpll.Log.Record

/-!
What the program takes from its libraries: a reader of its arguments, filters for its log, and the
layout of its last words.
-/

namespace Dpll.CommandLine

structure Options where
  input : String
  output : String := "DPLLResults.txt"
  /-- In seconds. -/
  timeout : Option Nat := none
  stats : Bool := false
  /-- How often more messages were asked for. -/
  verbosity : Nat := 0
  deriving DecidableEq, Repr

/-- What the arguments ask for. -/
inductive Request where
  | run (options : Options)
  /-- Nothing but a text, such as the help. -/
  | display (text : String)
  /-- They cannot be read, for this reason. -/
  | refuse (reason : String)
  deriving DecidableEq, Repr

/-- Which records are shown. -/
abbrev Filter := Record → Bool

structure Toolkit where
  request : List String → Request
  /-- The filter that the user has set by a text, if it is one. -/
  filter? : String → Option Filter
  /-- Shows the records of this level and of all that are more severe. -/
  upTo : Level → Filter
  /-- The text of an error and of the causes behind it, given by their messages. -/
  layout : List String → String

/-- The level up to which records are shown, if the user has set no filter. -/
def levelFor : Nat → Level
  | 0 => .warn
  | 1 => .info
  | 2 => .debug
  | _ => .trace

def Toolkit.filter (kit : Toolkit) (setting : Option String) (verbosity : Nat) : Filter :=
  (setting.bind kit.filter?).getD (kit.upTo (levelFor verbosity))

end Dpll.CommandLine
