import Dpll.Search.Decision
import Dpll.Proofs.Trail

/-!
How a decision is made and why it costs nothing. A census is read off the unassigned literals of
the open clauses: a symbol has a pure literal if it occurs there with one sign only, and the unit
literal is the one that the first clause with a single literal left has. Main statement: over
caches that are up to date, a model that agrees with the trail leaves one in which the forced
literal is true.
-/

namespace Dpll

namespace Occurrence

lemma foldl_add_bothSigns (ls : List Literal) :
    ls.foldl (fun o l => o.add l) bothSigns = bothSigns := by
  induction ls with
  | nil => rfl
  | cons l ls ih => exact ih

lemma foldl_add_oneSign (ls : List Literal) (k l : Literal) :
    ls.foldl (fun o l => o.add l) (oneSign k) = oneSign l ↔ k = l ∧ ∀ j ∈ ls, j = k := by
  induction ls with
  | nil => simp
  | cons j ls ih =>
    rw [List.foldl_cons, add]
    by_cases hk : k = j
    · subst hk
      simp [ih]
    · rw [if_neg hk, foldl_add_bothSigns]
      simp only [reduceCtorEq, List.mem_cons, forall_eq_or_imp, false_iff, not_and]
      intro _ hj
      exact absurd hj.symm hk

lemma foldl_add_absent (ls : List Literal) (l : Literal) :
    ls.foldl (fun o l => o.add l) absent = oneSign l ↔ l ∈ ls ∧ ∀ j ∈ ls, j = l := by
  cases ls with
  | nil => simp
  | cons k ls =>
    rw [List.foldl_cons, add, foldl_add_oneSign]
    constructor
    · rintro ⟨rfl, hall⟩
      exact ⟨List.mem_cons_self, by simpa using hall⟩
    · rintro ⟨-, hall⟩
      obtain rfl := hall k List.mem_cons_self
      exact ⟨rfl, fun j hj => hall j (List.mem_cons_of_mem k hj)⟩

end Occurrence

namespace Clause

/-- The literal of a clause that has only one left. -/
def soleLiteral? (c : Clause) : Option Literal :=
  match c.cache.unassigned with
  | [l] => some l
  | _ => none

lemma soleLiteral?_eq_some_iff {c : Clause} {l : Literal} :
    c.soleLiteral? = some l ↔ c.cache.unassigned = [l] := by
  unfold soleLiteral?
  split
  next heq => simp [heq]
  next hne =>
    simp only [reduceCtorEq, false_iff]
    exact hne l

end Clause

namespace Census

def openLiterals (clauses : List Clause) : List Literal :=
  clauses.flatMap (·.cache.unassigned)

lemma getElem?_foldl_addLiteral (ls : List Literal) (occurrences : Array Occurrence) (i : Nat) :
    (ls.foldl addLiteral occurrences)[i]? = occurrences[i]?.map fun o =>
      (ls.filter (·.symbol = i)).foldl (fun o l => o.add l) o := by
  induction ls generalizing occurrences with
  | nil => simp
  | cons l ls ih =>
    rw [List.foldl_cons, ih, addLiteral, Array.getElem?_modify]
    by_cases h : l.symbol = i
    · simp [h, Function.comp_def]
    · simp [h]

lemma foldl_addClause (clauses : List Clause) (census : Census) :
    clauses.foldl addClause census =
      { occurrences := (openLiterals clauses).foldl addLiteral census.occurrences
        unit := census.unit <|> clauses.findSome? (·.soleLiteral?) } := by
  induction clauses generalizing census with
  | nil => simp [openLiterals]
  | cons c clauses ih =>
    rw [List.foldl_cons, ih, addClause]
    simp only [openLiterals, List.flatMap_cons, List.foldl_append, List.findSome?_cons]
    congr 1
    change ((census.unit <|> c.soleLiteral?) <|> clauses.findSome? (·.soleLiteral?)) = _
    cases census.unit <;> cases c.soleLiteral? <;> rfl

lemma unit_ofClauses (n : Nat) (clauses : List Clause) :
    (ofClauses n clauses).unit = clauses.findSome? (·.soleLiteral?) := by
  rw [ofClauses, foldl_addClause]
  rfl

/-- A pure literal is all that occurs of its symbol. -/
lemma pureLiteral?_eq_some_iff {n : Nat} {clauses : List Clause} {i : Nat} {l : Literal} :
    (ofClauses n clauses).pureLiteral? i = some l ↔
      i < n ∧ l.symbol = i ∧ l ∈ openLiterals clauses ∧
        ∀ k ∈ openLiterals clauses, k.symbol = i → k = l := by
  have hone : (ofClauses n clauses).pureLiteral? i = some l ↔
      (ofClauses n clauses).occurrences[i]? = some (.oneSign l) := by
    unfold pureLiteral?
    split
    next heq => simp [heq]
    next hne =>
      simp only [reduceCtorEq, false_iff]
      exact hne l
  rw [hone, ofClauses, foldl_addClause, getElem?_foldl_addLiteral, Array.getElem?_replicate]
  by_cases hi : i < n
  · rw [if_pos hi, Option.map_some, Option.some.injEq, Occurrence.foldl_add_absent]
    simp only [List.mem_filter, decide_eq_true_eq, and_imp]
    tauto
  · simp [hi]

end Census

namespace Decision

lemma choose_force {n : Nat} {pool : List Nat} {clauses : List Clause} {l : Literal}
    {reason : Reason} (h : choose n pool clauses = .force l reason) :
    (reason = .pureLiteral ∧ l.symbol ∈ pool ∧ l ∈ Census.openLiterals clauses ∧
        ∀ k ∈ Census.openLiterals clauses, k.symbol = l.symbol → k = l) ∨
      reason = .unitClause ∧ ∃ c ∈ clauses, c.cache.unassigned = [l] := by
  simp only [choose] at h
  split at h
  next k _ hpure =>
    cases h
    left
    obtain ⟨i, hi, hl⟩ := List.exists_of_findSome?_eq_some hpure
    obtain ⟨-, rfl, hmem, hall⟩ := Census.pureLiteral?_eq_some_iff.mp hl
    exact ⟨rfl, hi, hmem, hall⟩
  next k _ hunit =>
    cases h
    right
    rw [Census.unit_ofClauses] at hunit
    obtain ⟨c, hc, hl⟩ := List.exists_of_findSome?_eq_some hunit
    exact ⟨rfl, c, hc, Clause.soleLiteral?_eq_some_iff.mp hl⟩
  · cases h

end Decision

namespace Trail

/-- The clauses whose caches do not call them true. -/
def undecided (t : Trail) : List Clause :=
  t.clauses.filter (·.cache.status ≠ some true)

/-- The caches belong to the present values. -/
def UpToDate (t : Trail) : Prop :=
  ∃ status, t.freshness = .swept status ∧ status ≠ some false

lemma UpToDate.openClauses_eq {t : Trail} (h : t.UpToDate) : t.openClauses = .ok t.undecided := by
  obtain ⟨status, hs, hne⟩ := h
  unfold openClauses
  rw [hs]
  match status, hne with
  | none, _ => rfl
  | some true, _ => rfl
  | some false, hne => exact absurd rfl hne

lemma upToDate_of_openClauses {t : Trail} {clauses : List Clause}
    (h : t.openClauses = .ok clauses) : t.UpToDate ∧ clauses = t.undecided := by
  have hu : t.UpToDate := by
    unfold openClauses at h
    cases hf : t.freshness with
    | stale =>
      rw [hf] at h
      cases h
    | swept status =>
      refine ⟨status, hf, ?_⟩
      rintro rfl
      rw [hf] at h
      cases h
  rw [hu.openClauses_eq, Except.ok.injEq] at h
  exact ⟨hu, h.symm⟩

lemma openClauses_eq_error_iff {t : Trail} :
    t.openClauses = .error .staleCaches ↔ ¬ t.UpToDate := by
  constructor
  · intro h hu
    rw [hu.openClauses_eq] at h
    cases h
  · intro hu
    unfold openClauses
    cases hf : t.freshness with
    | stale => rfl
    | swept status =>
      cases status with
      | none => exact absurd ⟨none, hf, by simp⟩ hu
      | some b =>
        cases b with
        | false => rfl
        | true => exact absurd ⟨some true, hf, by simp⟩ hu

lemma eq_staleCaches {t : Trail} {fault : Fault} (h : t.openClauses = .error fault) :
    fault = .staleCaches := by
  by_cases hu : t.UpToDate
  · rw [hu.openClauses_eq] at h
    cases h
  · rw [openClauses_eq_error_iff.mpr hu] at h
    cases h
    rfl

namespace Consistent

variable {p : Problem} {t : Trail}

lemma upToDate_settle (h : t.Consistent p) (hf : t.standing ≠ some false) :
    t.settle.UpToDate :=
  ⟨t.standing, h.freshness_settle, hf⟩

lemma mem_undecided_iff (h : t.Consistent p) (hu : t.UpToDate) {c : Clause} :
    c ∈ t.undecided ↔ c ∈ t.clauses ∧ (t.valuation.assess c.literals).status ≠ some true := by
  obtain ⟨status, hs, hne⟩ := hu
  simp only [undecided, List.mem_filter, decide_eq_true_eq]
  constructor
  · rintro ⟨hc, ht⟩
    rw [h.current status hs hne c hc] at ht
    exact ⟨hc, ht⟩
  · rintro ⟨hc, ht⟩
    rw [h.current status hs hne c hc]
    exact ⟨hc, ht⟩

lemma unassigned_eq (h : t.Consistent p) (hu : t.UpToDate) {c : Clause} (hc : c ∈ t.undecided) :
    c.cache.unassigned = c.literals.filter (t.valuation.truth · = none) := by
  obtain ⟨hmem, ht⟩ := (h.mem_undecided_iff hu).mp hc
  obtain ⟨status, hs, hne⟩ := hu
  rw [h.current status hs hne c hmem, Valuation.unassigned_assess ht]

lemma mem_openLiterals_iff (h : t.Consistent p) (hu : t.UpToDate) {l : Literal} :
    l ∈ Census.openLiterals t.undecided ↔
      ∃ c ∈ t.undecided, l ∈ c.literals ∧ t.valuation.valueAt l.symbol = none := by
  simp only [Census.openLiterals, List.mem_flatMap]
  apply exists_congr
  intro c
  apply and_congr_right
  intro hc
  rw [h.unassigned_eq hu hc, List.mem_filter, decide_eq_true_eq, Valuation.truth_eq_none_iff]

/-- A pure literal may be made true: no clause needs its negation. -/
lemma solvable_pure (h : t.Consistent p) (hu : t.UpToDate) {l : Literal}
    (hl : t.valuation.valueAt l.symbol = none)
    (hpure : ∀ k ∈ Census.openLiterals t.undecided, k.symbol = l.symbol → k = l)
    (hs : p.Solvable t.entries) : p.Solvable (⟨l.symbol, l.sign.satisfying⟩ :: t.entries) := by
  obtain ⟨σ, hσ, hm⟩ := hs
  rw [h.agrees_iff] at hσ
  let τ : Assignment := Function.update σ l.symbol l.sign.satisfying
  have hτ : τ.Extends t.valuation := hσ.update hl _
  have hτl : l.Holds τ := Function.update_self _ _ _
  refine ⟨τ, ?_, ?_⟩
  · rw [Assignment.agrees_cons, h.agrees_iff]
    exact ⟨hτl, hτ⟩
  · rw [← h.isModel_iff] at hm ⊢
    intro c hc
    by_cases ht : (t.valuation.assess c.literals).status = some true
    · obtain ⟨k, hk, hkt⟩ := Valuation.status_assess_eq_true_iff.mp ht
      exact ⟨k, hk, hτ.holds hkt⟩
    · -- The model makes true some literal without a value, and `l` is the only one to change.
      have hopen : c ∈ t.undecided := (h.mem_undecided_iff hu).mpr ⟨hc, ht⟩
      obtain ⟨k, hk, hkσ⟩ := hm c hc
      by_cases hkl : k.symbol = l.symbol
      · have hmem : k ∈ Census.openLiterals t.undecided := by
          rw [h.mem_openLiterals_iff hu]
          exact ⟨c, hopen, hk, by rw [hkl, hl]⟩
        obtain rfl := hpure k hmem hkl
        exact ⟨k, hk, hτl⟩
      · refine ⟨k, hk, ?_⟩
        have hτk : τ k.symbol = σ k.symbol := Function.update_of_ne hkl _ _
        rw [Literal.Holds, hτk]
        exact hkσ

/-- The last literal of an open clause is true in every model that agrees with the trail. -/
lemma solvable_unit (h : t.Consistent p) (hu : t.UpToDate) {l : Literal} {c : Clause}
    (hc : c ∈ t.undecided) (hl : c.cache.unassigned = [l]) (hs : p.Solvable t.entries) :
    p.Solvable (⟨l.symbol, l.sign.satisfying⟩ :: t.entries) := by
  obtain ⟨σ, hσ, hm⟩ := hs
  obtain ⟨hmem, ht⟩ := (h.mem_undecided_iff hu).mp hc
  obtain ⟨k, hk, hkσ⟩ := (h.isModel_iff σ).mpr hm c hmem
  have hext := (h.agrees_iff σ).mp hσ
  have hnone : t.valuation.truth k = none := by
    match hkt : t.valuation.truth k with
    | none => rfl
    | some true => exact absurd (Valuation.status_assess_eq_true_iff.mpr ⟨k, hk, hkt⟩) ht
    | some false => exact absurd hkσ (hext.not_holds hkt)
  have hkl : k ∈ c.cache.unassigned := by
    rw [h.unassigned_eq hu hc, List.mem_filter]
    exact ⟨hk, by simpa using hnone⟩
  rw [hl, List.mem_singleton] at hkl
  subst hkl
  exact ⟨σ, by rw [Assignment.agrees_cons]; exact ⟨hkσ, hσ⟩, hm⟩

/-- A forced literal is without a value, and making it true loses no solution. -/
theorem choose_force (h : t.Consistent p) (hu : t.UpToDate) {n : Nat} {pool : List Nat}
    {l : Literal} {reason : Reason} (hc : Decision.choose n pool t.undecided = .force l reason) :
    (l.symbol < p.ids.length ∧ t.valuation.valueAt l.symbol = none) ∧
      (p.Solvable t.entries → p.Solvable (⟨l.symbol, l.sign.satisfying⟩ :: t.entries)) := by
  have hfree : ∀ k ∈ Census.openLiterals t.undecided,
      k.symbol < p.ids.length ∧ t.valuation.valueAt k.symbol = none := by
    intro k hk
    obtain ⟨c, hc, hkc, hnone⟩ := (h.mem_openLiterals_iff hu).mp hk
    have hmem := ((h.mem_undecided_iff hu).mp hc).1
    exact ⟨by rw [← h.size_eq]; exact h.inRange c hmem k hkc, hnone⟩
  obtain ⟨-, -, hmem, hpure⟩ | ⟨-, c, hmem, hl⟩ := Decision.choose_force hc
  · obtain ⟨hlt, hnone⟩ := hfree l hmem
    exact ⟨⟨hlt, hnone⟩, h.solvable_pure hu hnone hpure⟩
  · have hlo : l ∈ Census.openLiterals t.undecided := by
      simp only [Census.openLiterals, List.mem_flatMap]
      exact ⟨c, hmem, by simp [hl]⟩
    exact ⟨hfree l hlo, h.solvable_unit hu hmem hl⟩

end Consistent

end Trail

end Dpll
