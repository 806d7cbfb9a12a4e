import Dpll.Literal

/-!
Symbols with their values so far. A symbol has an id, which is the number that stands for it in
text, and an index, which is its place in the order of first appearance. Everything inside a
search goes by index; only text and reports show ids.
-/

namespace Dpll

/-- A propositional variable; `none` while it is unassigned. -/
structure Symbol where
  id : Nat
  value : Option Bool := none
  deriving DecidableEq, Repr

/-- Ids are unique, so symbols compare by id alone. -/
instance : Ord Symbol := ⟨fun a b => compare a.id b.id⟩

/-- Symbols in ascending order of their ids; those of one id keep their order. -/
def Symbol.sort (symbols : List Symbol) : List Symbol :=
  symbols.mergeSort fun a b => a.id ≤ b.id

structure Valuation where
  symbols : Array Symbol := #[]
  deriving DecidableEq, Repr

namespace Valuation

def ofIds (ids : List Nat) : Valuation :=
  ⟨(ids.map fun id => { id }).toArray⟩

def size (v : Valuation) : Nat :=
  v.symbols.size

def isEmpty (v : Valuation) : Bool :=
  v.symbols.isEmpty

def ids (v : Valuation) : List Nat :=
  v.symbols.toList.map (·.id)

def symbolAt (v : Valuation) (index : Nat) : Except Fault Symbol :=
  match v.symbols[index]? with
  | some s => .ok s
  | none => .error (.outOfRange index)

def value (v : Valuation) (index : Nat) : Except Fault (Option Bool) :=
  (·.value) <$> v.symbolAt index

def id (v : Valuation) (index : Nat) : Except Fault Nat :=
  (·.id) <$> v.symbolAt index

/-- The id of a symbol, and 0 for an index outside, which no clause line can name. -/
def idAt (v : Valuation) (index : Nat) : Nat :=
  (v.symbols[index]?.map (·.id)).getD 0

def set (v : Valuation) (index : Nat) (value : Option Bool) : Valuation :=
  ⟨v.symbols.modify index fun s => { s with value }⟩

def evaluate (v : Valuation) (l : Literal) : Except Fault (Option Bool) :=
  l.under <$> v.value l.symbol

/-- The literal as a clause line writes it, as in `-12`. -/
def render (v : Valuation) (l : Literal) : Except Fault String :=
  (fun id => l.sign.mark ++ toString id) <$> v.id l.symbol

def sorted (v : Valuation) : List Symbol :=
  Symbol.sort v.symbols.toList

end Valuation

end Dpll
