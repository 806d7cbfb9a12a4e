import Mathlib.Data.List.Nodup
import Dpll.Proofs.Cache

/-!
The invariant of a trail. A trail over a problem has the problem's ids and literals, its values
are those of its entries, no two of which are for one symbol, and a sweep that has not been
outdated has left the status of the present values and, unless it met a false clause, caches that
belong to them. Main statement: every trail that operations lead to is of this kind, whether it
is a search or someone else who calls them.
-/

namespace Dpll

namespace Trail

/-- What the present values make of the clauses. -/
def standing (t : Trail) : Option Bool :=
  t.valuation.status t.clauses

/-- The present values leave open whether the search has succeeded or failed. -/
def Undetermined (t : Trail) : Prop :=
  t.standing ≠ some false ∧ t.verdict t.standing = none

lemma Undetermined.standing_eq {t : Trail} (h : t.Undetermined) (hne : t.entries ≠ []) :
    t.standing = none := by
  simpa [verdict, isEmpty, hne] using h.2

def extend (e : Entry) (t : Trail) : Trail :=
  { t with
    valuation := t.valuation.set e.symbol (some e.value)
    entries := e :: t.entries
    freshness := .stale }

def retract (symbol : Nat) (t : Trail) : Trail :=
  { t with
    valuation := t.valuation.set symbol none
    entries := t.entries.tail
    freshness := .stale }

/-- The trail after a request for its status. -/
def settle (t : Trail) : Trail :=
  match t.freshness with
  | .swept _ => t
  | .stale =>
    let sweep := Sweep.ofClauses t.valuation t.clauses
    { t with
      clauses := sweep.clauses
      recomputations := t.recomputations + sweep.refreshed
      freshness := .swept t.standing }

@[simp] lemma valuation_settle (t : Trail) : t.settle.valuation = t.valuation := by
  unfold settle
  split <;> rfl

@[simp] lemma entries_settle (t : Trail) : t.settle.entries = t.entries := by
  unfold settle
  split <;> rfl

@[simp] lemma literals_settle (t : Trail) :
    t.settle.clauses.map (·.literals) = t.clauses.map (·.literals) := by
  unfold settle
  split
  · rfl
  · exact Sweep.literals_ofClauses _ _

lemma clauses_settle_eq_nil {t : Trail} : t.settle.clauses = [] ↔ t.clauses = [] := by
  have h := congrArg List.length (literals_settle t)
  rw [List.length_map, List.length_map] at h
  rw [← List.length_eq_zero_iff, h, List.length_eq_zero_iff]

lemma settle_of_swept {t : Trail} {status : Option Bool} (h : t.freshness = .swept status) :
    t.settle = t := by
  simp only [settle, h]

lemma settle_of_stale {t : Trail} (h : t.freshness = .stale) :
    t.settle = { t with
      clauses := (Sweep.ofClauses t.valuation t.clauses).clauses
      recomputations := t.recomputations + (Sweep.ofClauses t.valuation t.clauses).refreshed
      freshness := .swept t.standing } := by
  simp only [settle, h]

/-- The values are those of the entries, no two of which are for one symbol. -/
structure Mirrored (t : Trail) : Prop where
  value_iff : ∀ i b, t.valuation.valueAt i = some b ↔ ⟨i, b⟩ ∈ t.entries
  nodup : (t.entries.map (·.symbol)).Nodup

namespace Mirrored

variable {t : Trail}

lemma valueAt_eq_none_iff (h : t.Mirrored) (i : Nat) :
    t.valuation.valueAt i = none ↔ ∀ e ∈ t.entries, e.symbol ≠ i := by
  constructor
  · rintro hi ⟨j, b⟩ he rfl
    rw [(h.value_iff j b).mpr he] at hi
    cases hi
  · intro hi
    cases hv : t.valuation.valueAt i with
    | none => rfl
    | some b => exact absurd rfl (hi _ ((h.value_iff i b).mp hv))

lemma valueAt_eq_none_iff_not_mem (h : t.Mirrored) (i : Nat) :
    t.valuation.valueAt i = none ↔ i ∉ t.entries.map (·.symbol) := by
  rw [h.valueAt_eq_none_iff]
  simp

lemma lt_size (h : t.Mirrored) {e : Entry} (he : e ∈ t.entries) : e.symbol < t.valuation.size :=
  Valuation.lt_size_of_valueAt ((h.value_iff e.symbol e.value).mpr he)

lemma new {v : Valuation} (hv : ∀ i, v.valueAt i = none) (clauses : List Clause) :
    (Trail.new v clauses).Mirrored where
  value_iff := by
    intro i b
    simp [Trail.new, hv]
  nodup := List.nodup_nil

lemma extend (h : t.Mirrored) {e : Entry} (hlt : e.symbol < t.valuation.size)
    (hnone : t.valuation.valueAt e.symbol = none) : (t.extend e).Mirrored where
  value_iff := by
    intro i b
    simp only [Trail.extend, Valuation.valueAt_set hlt, List.mem_cons, ← h.value_iff]
    by_cases hi : e.symbol = i
    · subst hi
      rw [if_pos rfl, hnone]
      cases e
      simp [eq_comm]
    · rw [if_neg hi]
      constructor
      · exact .inr
      · rintro (rfl | hv)
        · exact absurd rfl hi
        · exact hv
  nodup := by
    simp only [Trail.extend, List.map_cons, List.nodup_cons]
    exact ⟨(h.valueAt_eq_none_iff_not_mem _).mp hnone, h.nodup⟩

lemma retract (h : t.Mirrored) {e : Entry} {entries : List Entry}
    (he : t.entries = e :: entries) : (t.retract e.symbol).Mirrored where
  value_iff := by
    intro i b
    have hv := (h.value_iff e.symbol e.value).mpr (by simp [he])
    have hn := h.nodup
    simp only [he, List.map_cons, List.nodup_cons, List.mem_map, not_exists, not_and] at hn
    simp only [Trail.retract, he, List.tail_cons,
      Valuation.valueAt_set (Valuation.lt_size_of_valueAt hv)]
    by_cases hi : e.symbol = i
    · subst hi
      simp only [if_true, reduceCtorEq, false_iff]
      intro hmem
      exact hn.1 _ hmem rfl
    · rw [if_neg hi, h.value_iff, he, List.mem_cons]
      constructor
      · rintro (rfl | hmem)
        · exact absurd rfl hi
        · exact hmem
      · exact .inr
  nodup := by
    have hn := h.nodup
    simp only [he, List.map_cons, List.nodup_cons] at hn
    simpa [Trail.retract, he] using hn.2

end Mirrored

/-- The operations keep this of every trail over a problem. -/
structure Consistent (p : Problem) (t : Trail) : Prop where
  ids_eq : t.valuation.ids = p.ids
  literals_eq : t.clauses.map (·.literals) = p.clauses.map (·.literals)
  value_iff : ∀ i b, t.valuation.valueAt i = some b ↔ ⟨i, b⟩ ∈ t.entries
  nodup : (t.entries.map (·.symbol)).Nodup
  swept : ∀ status, t.freshness = .swept status → status = t.standing
  current : ∀ status, t.freshness = .swept status → status ≠ some false →
    ∀ c ∈ t.clauses, c.cache = t.valuation.assess c.literals

namespace Consistent

variable {p : Problem} {t : Trail}

lemma size_eq (h : t.Consistent p) : t.valuation.size = p.ids.length := by
  rw [← Valuation.length_ids, h.ids_eq]

lemma inRange (h : t.Consistent p) : ∀ c ∈ t.clauses, c.InRange t.valuation.size := by
  rw [h.size_eq]
  exact (Clause.forall_congr_literals (fun ls => ∀ l ∈ ls, l.symbol < p.ids.length)
    h.literals_eq).mpr p.inRange

lemma standing_eq_status (h : t.Consistent p) : t.standing = t.valuation.status p.clauses :=
  Valuation.status_congr h.literals_eq

lemma mirrored (h : t.Consistent p) : t.Mirrored :=
  ⟨h.value_iff, h.nodup⟩

lemma lt_size (h : t.Consistent p) {e : Entry} (he : e ∈ t.entries) :
    e.symbol < t.valuation.size :=
  h.mirrored.lt_size he

lemma valueAt_eq_none_iff (h : t.Consistent p) (i : Nat) :
    t.valuation.valueAt i = none ↔ ∀ e ∈ t.entries, e.symbol ≠ i :=
  h.mirrored.valueAt_eq_none_iff i

lemma valueAt_eq_none_iff_not_mem (h : t.Consistent p) (i : Nat) :
    t.valuation.valueAt i = none ↔ i ∉ t.entries.map (·.symbol) :=
  h.mirrored.valueAt_eq_none_iff_not_mem i

lemma isModel_iff (h : t.Consistent p) (σ : Assignment) :
    (∀ c ∈ t.clauses, c.Holds σ) ↔ p.IsModel σ :=
  Clause.forall_congr_literals (fun ls => ∃ l ∈ ls, l.Holds σ) h.literals_eq

lemma agrees_iff (h : t.Consistent p) (σ : Assignment) :
    σ.Agrees t.entries ↔ σ.Extends t.valuation := by
  constructor
  · intro hσ i b hi
    exact hσ _ ((h.value_iff i b).mp hi)
  · rintro hσ ⟨i, b⟩ he
    exact hσ i b ((h.value_iff i b).mpr he)

lemma new (p : Problem) : p.trail.Consistent p where
  ids_eq := Valuation.ids_ofIds _
  literals_eq := rfl
  value_iff := (Mirrored.new (Valuation.valueAt_ofIds p.ids) p.clauses).value_iff
  nodup := List.nodup_nil
  swept := by
    intro status h
    cases h
  current := by
    intro status h
    cases h

lemma extend (h : t.Consistent p) {e : Entry} (hlt : e.symbol < p.ids.length)
    (hnone : t.valuation.valueAt e.symbol = none) : (t.extend e).Consistent p where
  ids_eq := by simpa [Trail.extend] using h.ids_eq
  literals_eq := h.literals_eq
  value_iff := (h.mirrored.extend (h.size_eq ▸ hlt) hnone).value_iff
  nodup := (h.mirrored.extend (h.size_eq ▸ hlt) hnone).nodup
  swept := by
    intro status hs
    cases hs
  current := by
    intro status hs
    cases hs

lemma retract (h : t.Consistent p) {e : Entry} {entries : List Entry}
    (he : t.entries = e :: entries) : (t.retract e.symbol).Consistent p where
  ids_eq := by simpa [Trail.retract] using h.ids_eq
  literals_eq := h.literals_eq
  value_iff := (h.mirrored.retract he).value_iff
  nodup := (h.mirrored.retract he).nodup
  swept := by
    intro status hs
    cases hs
  current := by
    intro status hs
    cases hs

lemma freshness_settle (h : t.Consistent p) :
    t.settle.freshness = .swept t.standing := by
  cases hf : t.freshness with
  | swept status => rw [settle_of_swept hf, hf, h.swept status hf]
  | stale => rw [settle_of_stale hf]

lemma settle (h : t.Consistent p) : t.settle.Consistent p where
  ids_eq := by simpa using h.ids_eq
  literals_eq := by simpa using h.literals_eq
  value_iff := by simpa using h.value_iff
  nodup := by simpa using h.nodup
  swept := by
    intro status hs
    rw [h.freshness_settle] at hs
    cases hs
    rw [standing, standing, valuation_settle, Valuation.status_congr (literals_settle t)]
  current := by
    intro status hs hne
    rw [h.freshness_settle] at hs
    cases hs
    cases hf : t.freshness with
    | swept status =>
      rw [settle_of_swept hf]
      rw [← h.swept status hf] at hne
      exact h.current status hf hne
    | stale =>
      rw [settle_of_stale hf]
      simp only [Sweep.clauses_ofClauses h.inRange hne, List.forall_mem_map]
      intro c _
      rfl

lemma status_eq (h : t.Consistent p) :
    t.status = .ok (t.verdict t.standing) t.settle := by
  cases hf : t.freshness with
  | swept status => rw [Trail.status, hf, settle_of_swept hf, h.swept status hf]
  | stale =>
    rw [Trail.status, hf, settle_of_stale hf]
    simp only [Sweep.status_ofClauses h.inRange]
    rfl

end Consistent

lemma push_cases (t : Trail) (i : Nat) (b : Bool) :
    (i < t.valuation.size ∧ t.valuation.valueAt i = none ∧
        t.push i b = .ok () (t.extend ⟨i, b⟩)) ∨
      (t.valuation.valueAt i ≠ none ∧
        t.push i b = .error (.alreadyAssigned (t.valuation.idAt i)) t) ∨
      (t.valuation.size ≤ i ∧ t.push i b = .error (.outOfRange i) t) := by
  unfold push Valuation.symbolAt Valuation.valueAt Valuation.idAt
  match hs : t.valuation.symbols[i]? with
  | none =>
    right
    right
    exact ⟨by simpa [Valuation.size] using hs, rfl⟩
  | some ⟨id, some x⟩ =>
    right
    left
    exact ⟨by simp, rfl⟩
  | some ⟨id, none⟩ =>
    left
    obtain ⟨hlt, -⟩ := Array.getElem?_eq_some_iff.mp hs
    exact ⟨hlt, rfl, rfl⟩

lemma push_eq {t : Trail} {i : Nat} (hlt : i < t.valuation.size)
    (hnone : t.valuation.valueAt i = none) (b : Bool) :
    t.push i b = .ok () (t.extend ⟨i, b⟩) := by
  obtain ⟨-, -, heq⟩ | ⟨hsome, -⟩ | ⟨hle, -⟩ := t.push_cases i b
  · exact heq
  · exact absurd hnone hsome
  · omega

lemma push_ok {t t' : Trail} {i : Nat} {b : Bool} (h : t.push i b = .ok () t') :
    i < t.valuation.size ∧ t.valuation.valueAt i = none ∧ t' = t.extend ⟨i, b⟩ := by
  obtain ⟨hlt, hnone, heq⟩ | ⟨-, heq⟩ | ⟨-, heq⟩ := t.push_cases i b
  · rw [h] at heq
    cases heq
    exact ⟨hlt, hnone, rfl⟩
  · rw [h] at heq
    cases heq
  · rw [h] at heq
    cases heq

lemma pop_eq {t : Trail} {e : Entry} {entries : List Entry} (he : t.entries = e :: entries) :
    t.pop = .ok e.symbol (t.retract e.symbol) := by
  simp only [pop, retract, he, List.tail_cons]

/-- The trails that assignments, undoing and requests for the status lead to. -/
inductive Reached (p : Problem) : Trail → Prop
  | new : Reached p p.trail
  | push {t t' : Trail} {i : Nat} {b : Bool} :
      Reached p t → t.push i b = .ok () t' → Reached p t'
  | pop {t t' : Trail} {i : Nat} : Reached p t → t.pop = .ok i t' → Reached p t'
  | status {t t' : Trail} {status : Option Bool} :
      Reached p t → t.status = .ok status t' → Reached p t'

theorem Reached.consistent {p : Problem} {t : Trail} (h : t.Reached p) : t.Consistent p := by
  induction h with
  | new => exact .new p
  | push _ hpush ih =>
    obtain ⟨hlt, hnone, rfl⟩ := push_ok hpush
    exact ih.extend (by rwa [← ih.size_eq]) hnone
  | @pop t _ _ _ hpop ih =>
    match he : t.entries with
    | [] =>
      simp only [Trail.pop, he] at hpop
      cases hpop
    | e :: entries =>
      rw [pop_eq he] at hpop
      cases hpop
      exact ih.retract he
  | status _ hstatus ih =>
    rw [ih.status_eq] at hstatus
    cases hstatus
    exact ih.settle

end Trail

end Dpll
