import Mathlib.Logic.Function.Basic
import Mathlib.Tactic.Lemma
import Dpll.Trail

/-!
What clauses mean. A total assignment gives every symbol a truth value, and it is a model of a
problem if it makes a literal of every clause true. A valuation has values for some symbols only;
it stands for all the assignments that extend it, and what it says of a literal holds in each of
them.
-/

namespace Dpll

namespace Valuation

/-- The value of a symbol. An index outside has none. -/
def valueAt (v : Valuation) (i : Nat) : Option Bool :=
  v.symbols[i]?.bind (·.value)

def truth (v : Valuation) (l : Literal) : Option Bool :=
  l.under (v.valueAt l.symbol)

lemma evaluate_eq {v : Valuation} {l : Literal} (h : l.symbol < v.size) :
    v.evaluate l = .ok (v.truth l) := by
  have hs : v.symbols[l.symbol]? = some v.symbols[l.symbol] := Array.getElem?_eq_getElem h
  simp only [evaluate, value, symbolAt, truth, valueAt, hs]
  rfl

lemma truth_eq_none_iff {v : Valuation} {l : Literal} :
    v.truth l = none ↔ v.valueAt l.symbol = none := by
  simp [truth, Literal.under]

lemma truth_eq_some_iff {v : Valuation} {l : Literal} {b : Bool} :
    v.truth l = some b ↔ ∃ x, v.valueAt l.symbol = some x ∧ (x == l.sign.satisfying) = b := by
  simp [truth, Literal.under]

@[simp] lemma size_ofIds (ids : List Nat) : (ofIds ids).size = ids.length := by
  simp [ofIds, size]

@[simp] lemma ids_ofIds (ids : List Nat) : (ofIds ids).ids = ids := by
  simp [ofIds, Valuation.ids, Function.comp_def]

@[simp] lemma valueAt_ofIds (ids : List Nat) (i : Nat) : (ofIds ids).valueAt i = none := by
  simp only [ofIds, valueAt, List.getElem?_toArray, List.getElem?_map]
  cases ids[i]? <;> rfl

lemma length_ids (v : Valuation) : v.ids.length = v.size := by
  simp [ids, size]

lemma idAt_eq (v : Valuation) (i : Nat) : v.idAt i = v.ids.getD i 0 := by
  simp [idAt, ids, List.getD_eq_getElem?_getD]

@[simp] lemma size_set (v : Valuation) (i : Nat) (x : Option Bool) : (v.set i x).size = v.size := by
  simp [set, size]

@[simp] lemma ids_set (v : Valuation) (i : Nat) (x : Option Bool) : (v.set i x).ids = v.ids := by
  apply List.ext_getElem?
  intro j
  simp only [ids, set, List.getElem?_map, Array.getElem?_toList, Array.getElem?_modify]
  by_cases h : i = j
  · subst h
    cases v.symbols[i]? <;> simp
  · simp [h]

@[simp] lemma idAt_set (v : Valuation) (i : Nat) (x : Option Bool) (j : Nat) :
    (v.set i x).idAt j = v.idAt j := by
  simp only [idAt, set, Array.getElem?_modify]
  by_cases h : i = j
  · subst h
    cases v.symbols[i]? <;> simp
  · simp [h]

lemma valueAt_set {v : Valuation} {i : Nat} (h : i < v.size) (x : Option Bool) (j : Nat) :
    (v.set i x).valueAt j = if i = j then x else v.valueAt j := by
  simp only [valueAt, set, Array.getElem?_modify]
  by_cases hij : i = j
  · subst hij
    have hs : v.symbols[i]? = some v.symbols[i] := Array.getElem?_eq_getElem h
    simp [hs]
  · simp [hij]

lemma set_set_none {v : Valuation} {i : Nat} (h : v.valueAt i = none) (x : Option Bool) :
    (v.set i x).set i none = v := by
  cases v with
  | mk symbols =>
    simp only [set, mk.injEq]
    apply Array.ext_getElem?
    intro j
    simp only [Array.getElem?_modify]
    by_cases hij : i = j
    · subst hij
      cases hs : symbols[i]? with
      | none => simp
      | some symbol =>
        have hvalue : symbol.value = none := by simpa [valueAt, hs] using h
        simp [← hvalue]
    · simp [hij]

lemma lt_size_of_valueAt {v : Valuation} {i : Nat} {b : Bool} (h : v.valueAt i = some b) :
    i < v.size := by
  by_contra hi
  have hs : v.symbols[i]? = none := Array.getElem?_eq_none (Nat.le_of_not_lt hi)
  simp [valueAt, hs] at h

lemma valueAt_of_size_le {v : Valuation} {i : Nat} (h : v.size ≤ i) : v.valueAt i = none := by
  cases hv : v.valueAt i with
  | none => rfl
  | some b => exact absurd (lt_size_of_valueAt hv) (Nat.not_lt_of_le h)

end Valuation

/-- A truth value for every symbol, by index. -/
abbrev Assignment := Nat → Bool

def Literal.Holds (σ : Assignment) (l : Literal) : Prop :=
  σ l.symbol = l.sign.satisfying

lemma Literal.holds_pack {i : Nat} (h : i ≤ symbolLimit) (σ : Assignment) (sign : Sign) :
    (pack i sign).Holds σ ↔ σ i = sign.satisfying := by
  rw [Literal.Holds, symbol_pack h, sign_pack h]

namespace Clause

def Holds (σ : Assignment) (c : Clause) : Prop :=
  ∃ l ∈ c.literals, l.Holds σ

def InRange (n : Nat) (c : Clause) : Prop :=
  ∀ l ∈ c.literals, l.symbol < n

instance (n : Nat) (c : Clause) : Decidable (c.InRange n) :=
  inferInstanceAs (Decidable (∀ l ∈ c.literals, l.symbol < n))

lemma forall_congr_literals {cs ds : List Clause} (P : List Literal → Prop)
    (h : cs.map (·.literals) = ds.map (·.literals)) :
    (∀ c ∈ cs, P c.literals) ↔ ∀ d ∈ ds, P d.literals := by
  have hmap : ∀ es : List Clause,
      (∀ e ∈ es, P e.literals) ↔ ∀ ls ∈ es.map (·.literals), P ls := by
    intro es
    simp only [List.forall_mem_map]
  rw [hmap, hmap, h]

end Clause

namespace Assignment

/-- The symbols of these entries have the values that the entries name. -/
def Agrees (σ : Assignment) (entries : List Entry) : Prop :=
  ∀ e ∈ entries, σ e.symbol = e.value

@[simp] lemma agrees_nil (σ : Assignment) : σ.Agrees [] := by
  simp [Agrees]

@[simp] lemma agrees_cons (σ : Assignment) (e : Entry) (entries : List Entry) :
    σ.Agrees (e :: entries) ↔ σ e.symbol = e.value ∧ σ.Agrees entries := by
  simp [Agrees]

/-- The symbols that have a value have the same value in the assignment. -/
def Extends (σ : Assignment) (v : Valuation) : Prop :=
  ∀ i b, v.valueAt i = some b → σ i = b

/-- What a valuation says of its symbols, and false for the others. -/
def ofValuation (v : Valuation) : Assignment := fun i =>
  (v.valueAt i).getD false

lemma extends_ofValuation (v : Valuation) : (ofValuation v).Extends v := by
  intro i b h
  simp [ofValuation, h]

lemma Extends.holds {σ : Assignment} {v : Valuation} (h : σ.Extends v) {l : Literal}
    (hl : v.truth l = some true) : l.Holds σ := by
  obtain ⟨x, hx, heq⟩ := Valuation.truth_eq_some_iff.mp hl
  rw [Literal.Holds, h _ _ hx]
  simpa using heq

lemma Extends.not_holds {σ : Assignment} {v : Valuation} (h : σ.Extends v) {l : Literal}
    (hl : v.truth l = some false) : ¬ l.Holds σ := by
  obtain ⟨x, hx, heq⟩ := Valuation.truth_eq_some_iff.mp hl
  rw [Literal.Holds, h _ _ hx]
  simpa using heq

lemma Extends.update {σ : Assignment} {v : Valuation} (h : σ.Extends v) {i : Nat}
    (hi : v.valueAt i = none) (b : Bool) : Assignment.Extends (Function.update σ i b) v := by
  intro j x hj
  have hne : j ≠ i := by
    rintro rfl
    rw [hi] at hj
    cases hj
  rw [Function.update_of_ne hne]
  exact h j x hj

end Assignment

/-- Symbols with these ids, and clauses over them. -/
structure Problem where
  ids : List Nat
  clauses : List Clause
  inRange : ∀ c ∈ clauses, c.InRange ids.length

namespace Problem

def trail (p : Problem) : Trail :=
  .new (.ofIds p.ids) p.clauses

/-- Every clause has a literal. -/
def Proper (p : Problem) : Prop :=
  ∀ c ∈ p.clauses, c.literals ≠ []

instance (p : Problem) : Decidable p.Proper :=
  inferInstanceAs (Decidable (∀ c ∈ p.clauses, c.literals ≠ []))

/-- The clauses `-1 2`, `-1 -2`, `1 2 3` and `1 -2 -3`. A search over them guesses that 1 is true
and has to take it back. -/
def sample : Problem where
  ids := [1, 2, 3]
  clauses :=
    [{ literals := [.pack 0 .negative, .pack 1 .positive] },
      { literals := [.pack 0 .negative, .pack 1 .negative] },
      { literals := [.pack 0 .positive, .pack 1 .positive, .pack 2 .positive] },
      { literals := [.pack 0 .positive, .pack 1 .negative, .pack 2 .negative] }]
  inRange := by decide

def IsModel (p : Problem) (σ : Assignment) : Prop :=
  ∀ c ∈ p.clauses, c.Holds σ

/-- Some model has the values of these entries. -/
def Solvable (p : Problem) (entries : List Entry) : Prop :=
  ∃ σ : Assignment, σ.Agrees entries ∧ p.IsModel σ

lemma not_solvable_sample : ¬ sample.Solvable [⟨0, true⟩] := by
  rintro ⟨σ, hσ, hm⟩
  have htrue : σ 0 = true := hσ _ List.mem_cons_self
  simp (disch := decide) [IsModel, sample, Clause.Holds, Literal.holds_pack, Sign.satisfying,
    htrue] at hm

lemma Solvable.split {p : Problem} {entries : List Entry} (h : p.Solvable entries) (i : Nat) :
    p.Solvable (⟨i, true⟩ :: entries) ∨ p.Solvable (⟨i, false⟩ :: entries) := by
  obtain ⟨σ, hσ, hm⟩ := h
  cases hi : σ i with
  | true => exact .inl ⟨σ, by simp [hi, hσ], hm⟩
  | false => exact .inr ⟨σ, by simp [hi, hσ], hm⟩

end Problem

end Dpll
