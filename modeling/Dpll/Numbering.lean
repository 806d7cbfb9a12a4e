import Std.Data.HashMap
import Dpll.Valuation

/-!
A numbering gives every id an index in the order of first declaration and never takes one back.
It holds both directions: from index to id, and from id to index.
-/

namespace Dpll

structure Numbering where
  ids : Array Nat := #[]
  indices : Std.HashMap Nat Nat := {}

namespace Numbering

def size (t : Numbering) : Nat :=
  t.ids.size

def isEmpty (t : Numbering) : Bool :=
  t.ids.isEmpty

def index? (t : Numbering) (id : Nat) : Option Nat :=
  t.indices[id]?

/-- The index of `id`, which is the next free one if the id is new. -/
def declare (t : Numbering) (id : Nat) : Nat × Numbering :=
  match t.index? id with
  | some index => (index, t)
  | none => (t.size, { ids := t.ids.push id, indices := t.indices.insert id t.size })

def declareAll (t : Numbering) (ids : List Nat) : Numbering :=
  ids.foldl (fun t id => (t.declare id).2) t

def ofList (ids : List Nat) : Numbering :=
  declareAll {} ids

def valuation (t : Numbering) : Valuation :=
  .ofIds t.ids.toList

end Numbering

end Dpll
