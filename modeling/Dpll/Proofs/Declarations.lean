import Mathlib.Data.Finset.Card
import Mathlib.Data.List.Dedup
import Dpll.Proofs.Model
import Dpll.Proofs.Numbering

/-!
What declarations do to a numbering. Main statement: after any declarations the ids are those that
were declared, each once and in the order of its first declaration, an id and its index find each
other, and an index that was given out keeps its id whatever is declared later. A numbering may
keep symbols in place of ids; they are those that a search starts from, and none has a value.
-/

namespace Dpll

/-- A numbering that is kept with its symbols. -/
structure SymbolTable where
  indices : Std.HashMap Nat Nat := {}
  symbols : Valuation := {}

namespace SymbolTable

/-- The symbol is added first, and its index is read off the number of symbols then. -/
def declare (k : SymbolTable) (id : Nat) : Nat × SymbolTable :=
  match k.indices[id]? with
  | some index => (index, k)
  | none =>
    let symbols : Valuation := ⟨k.symbols.symbols.push { id }⟩
    (symbols.size - 1, { indices := k.indices.insert id (symbols.size - 1), symbols })

def declareAll (k : SymbolTable) (ids : List Nat) : SymbolTable :=
  ids.foldl (fun k id => (k.declare id).2) k

/-- The table is the numbering with symbols that have no values. -/
structure Keeps (k : SymbolTable) (t : Numbering) : Prop where
  indices_eq : k.indices = t.indices
  symbols_eq : k.symbols = t.valuation

lemma keeps_empty : Keeps {} {} :=
  ⟨rfl, rfl⟩

lemma Keeps.declare {k : SymbolTable} {t : Numbering} (h : k.Keeps t) (id : Nat) :
    (k.declare id).1 = (t.declare id).1 ∧ (k.declare id).2.Keeps (t.declare id).2 := by
  obtain ⟨indices, symbols⟩ := k
  obtain ⟨rfl, rfl⟩ := h
  cases hid : t.index? id with
  | some i =>
    have hk : t.indices[id]? = some i := hid
    rw [Numbering.declare_of_some hid, SymbolTable.declare]
    simp only [hk]
    exact ⟨trivial, rfl, rfl⟩
  | none =>
    have hk : t.indices[id]? = none := hid
    have hpush : (⟨t.valuation.symbols.push { id }⟩ : Valuation) =
        .ofIds (t.ids.push id).toList := by
      simp [Numbering.valuation, Valuation.ofIds]
    have hsize : (Valuation.ofIds (t.ids.push id).toList).size - 1 = t.size := by
      simp [Numbering.size]
    rw [Numbering.declare_of_none hid, SymbolTable.declare]
    simp only [hk, hpush, hsize]
    exact ⟨trivial, rfl, rfl⟩

lemma Keeps.declareAll {k : SymbolTable} {t : Numbering} (h : k.Keeps t) (ids : List Nat) :
    (k.declareAll ids).Keeps (t.declareAll ids) := by
  induction ids generalizing k t with
  | nil => exact h
  | cons id ids ih => exact ih (h.declare id).2

end SymbolTable

namespace Valuation

lemma id_eq_ok_iff {v : Valuation} {i id : Nat} : v.id i = .ok id ↔ v.ids[i]? = some id := by
  rw [Valuation.id, symbolAt, ids, List.getElem?_map, Array.getElem?_toList]
  cases v.symbols[i]? <;> simp [Functor.map, Except.map]

end Valuation

namespace Numbering

variable {t : Numbering} {id i : Nat}

lemma id_valuation_eq_ok_iff : t.valuation.id i = .ok id ↔ t.ids[i]? = some id := by
  rw [Valuation.id_eq_ok_iff, valuation, Valuation.ids_ofIds, Array.getElem?_toList]

lemma value_valuation {s : Symbol} (h : s ∈ t.valuation.symbols) : s.value = none := by
  simp only [valuation, Valuation.ofIds, List.mem_toArray, List.mem_map] at h
  obtain ⟨id, -, rfl⟩ := h
  rfl

/-- An index that was given out keeps its id. -/
lemma Faithful.id_declareAll (h : t.Faithful) (hi : t.ids[i]? = some id) (later : List Nat) :
    (t.declareAll later).ids[i]? = some id := by
  rw [← Array.getElem?_toList] at hi ⊢
  obtain ⟨hlt, -⟩ := List.getElem?_eq_some_iff.mp hi
  rw [ids_declareAll h, List.getElem?_append_left hlt, hi]

lemma Faithful.getElem?_declare (h : t.Faithful) (id : Nat) :
    (t.declare id).2.ids[(t.declare id).1]? = some id := by
  cases hid : t.index? id with
  | some i =>
    rw [declare_of_some hid]
    exact (h.index?_iff id i).mp hid
  | none =>
    rw [declare_of_none hid]
    exact Array.getElem?_push_size

lemma size_ofList (ids : List Nat) : (ofList ids).size = ids.toFinset.card := by
  have hset : (ofList ids).ids.toList.toFinset = ids.toFinset := by
    ext id
    rw [List.mem_toFinset, List.mem_toFinset, Array.mem_toList_iff, mem_ids_ofList]
  rw [← hset, List.toFinset_card_of_nodup (faithful_ofList ids).nodup]
  rfl

/-- The ids of a numbering are those that were declared, each once and in the order of its first
declaration, with no value. An id has the index of the symbol that has the id. To declare it again
gives its index and changes nothing, a new id gets the number of ids so far, and no declaration
takes an index away from its id. -/
theorem indices_ofList (ids : List Nat) :
    let t := ofList ids
    (t.ids.toList = ids.eraseDups ∧ t.ids.toList.Nodup ∧ (∀ id, id ∈ t.ids.toList ↔ id ∈ ids) ∧
      t.size = ids.toFinset.card) ∧
    (∀ id i, t.index? id = some i ↔ t.valuation.id i = .ok id) ∧
    (∀ id ∈ ids, ∃ i, t.index? id = some i ∧ t.declare id = (i, t)) ∧
    (∀ id ∉ ids, (t.declare id).1 = t.size ∧ (t.declare id).2.ids = t.ids.push id) ∧
    (∀ id i later, t.valuation.id i = .ok id → (t.declareAll later).valuation.id i = .ok id) ∧
    (∀ id later, ((t.declare id).2.declareAll later).valuation.id (t.declare id).1 = .ok id) ∧
    (∀ s ∈ t.valuation.symbols, s.value = none) ∧
    (SymbolTable.declareAll {} ids).Keeps t ∧
    ∀ id, ((SymbolTable.declareAll {} ids).declare id).1 = (t.declare id).1 := by
  intro t
  have ht : t.Faithful := faithful_ofList ids
  have hkeeps : (SymbolTable.declareAll {} ids).Keeps t := SymbolTable.keeps_empty.declareAll ids
  refine ⟨⟨ids_ofList ids, ht.nodup, ?_, size_ofList ids⟩, ?_, ?_, ?_, ?_, ?_, ?_, hkeeps, ?_⟩
  · intro id
    rw [Array.mem_toList_iff, mem_ids_ofList]
  · intro id i
    rw [id_valuation_eq_ok_iff, ht.index?_iff]
  · intro id hid
    have hmem : id ∈ t.ids.toList := by rwa [Array.mem_toList_iff, mem_ids_ofList]
    have hindex := (ht.index?_eq_some_iff id _).mpr ⟨hmem, rfl⟩
    exact ⟨_, hindex, declare_of_some hindex⟩
  · intro id hid
    have hnone : t.index? id = none := by
      by_contra hsome
      obtain ⟨i, hi⟩ := Option.ne_none_iff_exists'.mp hsome
      have hmem := ((ht.index?_eq_some_iff id i).mp hi).1
      rw [Array.mem_toList_iff, mem_ids_ofList] at hmem
      exact hid hmem
    rw [declare_of_none hnone]
    exact ⟨rfl, rfl⟩
  · intro id i later hi
    rw [id_valuation_eq_ok_iff] at hi ⊢
    exact ht.id_declareAll hi later
  · intro id later
    rw [id_valuation_eq_ok_iff]
    exact (ht.declare id).id_declareAll (ht.getElem?_declare id) later
  · exact fun s hs => value_valuation hs
  · exact fun id => (hkeeps.declare id).1

end Numbering

end Dpll
