import Mathlib.Data.List.Basic
import Dpll.Proofs.Model

/-!
What clause caches hold. `Valuation.assess` says what a valuation makes of a list of literals and
`Valuation.status` what it makes of a list of clauses, both without a scan that stops early. Main
statements: a refresh leaves the assessment in the cache, a sweep finds the status, and a sweep
that meets no false clause brings every cache up to date.
-/

namespace Dpll

namespace Valuation

/-- What a valuation makes of a disjunction of these literals. -/
def assess (v : Valuation) (literals : List Literal) : Cache :=
  if ∃ l ∈ literals, v.truth l = some true then { status := some true }
  else if ∀ l ∈ literals, v.truth l = some false then { status := some false }
  else { unassigned := literals.filter (v.truth · = none) }

section Assess

variable {v : Valuation} {literals : List Literal}

lemma assess_eq_true (h : ∃ l ∈ literals, v.truth l = some true) :
    v.assess literals = { status := some true } :=
  if_pos h

lemma status_assess_eq_true_iff :
    (v.assess literals).status = some true ↔ ∃ l ∈ literals, v.truth l = some true := by
  unfold assess
  split
  next h => simpa using h
  next h => split <;> simpa using h

lemma status_assess_eq_false_iff :
    (v.assess literals).status = some false ↔ ∀ l ∈ literals, v.truth l = some false := by
  unfold assess
  split
  next h =>
    obtain ⟨l, hl, ht⟩ := h
    simp only [Option.some.injEq, Bool.true_eq_false, false_iff, not_forall]
    exact ⟨l, hl, by simp [ht]⟩
  next =>
    split
    next hf => simpa using hf
    next hf => simpa using hf

lemma unassigned_assess (h : (v.assess literals).status ≠ some true) :
    (v.assess literals).unassigned = literals.filter (v.truth · = none) := by
  rw [Ne, status_assess_eq_true_iff] at h
  rw [assess, if_neg h]
  split
  next hf =>
    symm
    simp only [List.filter_eq_nil_iff, decide_eq_true_eq]
    intro l hl
    simp [hf l hl]
  · rfl

lemma unassigned_assess_ne_nil (h : (v.assess literals).status = none) :
    (v.assess literals).unassigned ≠ [] := by
  rw [unassigned_assess (by simp [h]), Ne, List.filter_eq_nil_iff]
  intro hnone
  have hfalse : (v.assess literals).status = some false := by
    rw [status_assess_eq_false_iff]
    intro l hl
    cases ht : v.truth l with
    | none => exact absurd ht (by simpa using hnone l hl)
    | some b =>
      cases b with
      | false => rfl
      | true =>
        rw [status_assess_eq_true_iff.mpr ⟨l, hl, ht⟩] at h
        cases h
  rw [h] at hfalse
  cases hfalse

lemma assess_cons_false {l : Literal} (hl : v.truth l = some false) :
    v.assess (l :: literals) = v.assess literals := by
  unfold assess
  simp [hl]

lemma assess_cons_none {l : Literal} (hl : v.truth l = none)
    (h : (v.assess literals).status ≠ some true) :
    v.assess (l :: literals) = { unassigned := l :: (v.assess literals).unassigned } := by
  rw [unassigned_assess h]
  rw [Ne, status_assess_eq_true_iff] at h
  rw [assess, if_neg (by simpa [hl] using h), if_neg (by simp [hl])]
  simp [hl]

end Assess

end Valuation

namespace Clause

lemma scan_eq {v : Valuation} {literals : List Literal} (h : ∀ l ∈ literals, l.symbol < v.size) :
    scan v literals = (v.assess literals, none) := by
  induction literals with
  | nil => rfl
  | cons l literals ih =>
    have hrest := ih fun k hk => h k (List.mem_cons_of_mem l hk)
    unfold scan
    rw [Valuation.evaluate_eq (h l List.mem_cons_self), hrest]
    cases hl : v.truth l with
    | some b =>
      cases b with
      | true => rw [Valuation.assess_eq_true ⟨l, List.mem_cons_self, hl⟩]
      | false => rw [Valuation.assess_cons_false hl]
    | none =>
      by_cases ht : (v.assess literals).status = some true
      · obtain ⟨k, hk, hkt⟩ := Valuation.status_assess_eq_true_iff.mp ht
        rw [Valuation.assess_eq_true ⟨k, hk, hkt⟩,
          Valuation.assess_eq_true ⟨k, List.mem_cons_of_mem l hk, hkt⟩]
      · rw [Valuation.assess_cons_none hl ht]
        cases ha : v.assess literals with
        | mk status unassigned =>
          rw [ha] at ht
          match status, ht with
          | none, _ => rfl
          | some false, _ => rfl
          | some true, ht => exact absurd rfl ht

def refreshed (v : Valuation) (c : Clause) : Clause :=
  { c with cache := v.assess c.literals }

lemma refresh_eq {v : Valuation} {c : Clause} (h : c.InRange v.size) :
    c.refresh v = .ok (v.assess c.literals).status (c.refreshed v) := by
  unfold refresh
  rw [scan_eq h]
  rfl

end Clause

namespace Valuation

/-- False if a clause is false, true if all of them are true. -/
def status (v : Valuation) (clauses : List Clause) : Option Bool :=
  if ∃ c ∈ clauses, (v.assess c.literals).status = some false then some false
  else if ∀ c ∈ clauses, (v.assess c.literals).status = some true then some true
  else none

section Status

variable {v : Valuation} {clauses : List Clause}

lemma status_eq_false_iff :
    v.status clauses = some false ↔ ∃ c ∈ clauses, (v.assess c.literals).status = some false := by
  unfold status
  split
  next h => simpa using h
  next h => split <;> simpa using h

lemma status_eq_true_iff :
    v.status clauses = some true ↔ ∀ c ∈ clauses, (v.assess c.literals).status = some true := by
  unfold status
  split
  next h =>
    obtain ⟨c, hc, hf⟩ := h
    simp only [Option.some.injEq, Bool.false_eq_true, false_iff, not_forall]
    exact ⟨c, hc, by simp [hf]⟩
  next =>
    split
    next ht => simpa using ht
    next ht => simpa using ht

end Status

lemma status_congr {v : Valuation} {cs ds : List Clause}
    (h : cs.map (·.literals) = ds.map (·.literals)) : v.status cs = v.status ds := by
  have htrue := Clause.forall_congr_literals (fun ls => (v.assess ls).status = some true) h
  have hfalse := Clause.forall_congr_literals (fun ls => (v.assess ls).status ≠ some false) h
  have hexists : (∃ c ∈ cs, (v.assess c.literals).status = some false) ↔
      ∃ d ∈ ds, (v.assess d.literals).status = some false := by
    rw [← not_iff_not]
    simpa using hfalse
  simp only [status, hexists, htrue]

end Valuation

namespace Clause

lemma refresh_cases (v : Valuation) (c : Clause) :
    (∃ status cache, c.refresh v = .ok status { c with cache }) ∨
      ∃ fault cache, c.refresh v = .error fault { c with cache } := by
  unfold refresh
  split
  next cache _ => exact .inl ⟨cache.status, cache, rfl⟩
  next cache fault _ => exact .inr ⟨fault, cache, rfl⟩

end Clause

namespace Sweep

/-- What clauses come to, the first of which is not false, by its status and that of the others. -/
def both (status rest : Option Bool) : Option Bool :=
  if status = some true then rest else if rest = some false then some false else none

lemma both_true {status : Option Bool} (h : status ≠ some false) :
    both status (some true) = status := by
  cases status with
  | none => rfl
  | some b =>
    cases b with
    | false => exact absurd rfl h
    | true => rfl

lemma both_eq_false_iff {status rest : Option Bool} :
    both status rest = some false ↔ rest = some false := by
  by_cases hs : status = some true
  · rw [both, if_pos hs]
  · by_cases hr : rest = some false <;> simp [both, hs, hr]

lemma both_assoc (a b c : Option Bool) : both (both a b) c = both a (both b c) := by
  by_cases ha : a = some true
  · simp [both, ha]
  · by_cases hb : b = some true
    · simp [both, ha, hb]
    · by_cases hf : b = some false <;> simp [both, ha, hb, hf]

section Cons

variable {v : Valuation} {c d : Clause} {clauses : List Clause}

lemma ofClauses_cons_of_error {fault : Fault} (h : c.refresh v = .error fault d) :
    ofClauses v (c :: clauses) = ⟨d :: clauses, 1, .error fault⟩ := by
  rw [ofClauses, h]

lemma ofClauses_cons_of_false (h : c.refresh v = .ok (some false) d) :
    ofClauses v (c :: clauses) = ⟨d :: clauses, 1, .ok (some false)⟩ := by
  rw [ofClauses, h]

lemma ofClauses_cons_of_ne_false {status : Option Bool} (h : c.refresh v = .ok status d)
    (hs : status ≠ some false) :
    ofClauses v (c :: clauses) =
      ⟨d :: (ofClauses v clauses).clauses, (ofClauses v clauses).refreshed + 1,
        (ofClauses v clauses).status.map (both status)⟩ := by
  rw [ofClauses, h]
  cases status with
  | none => rfl
  | some b =>
    cases b with
    | false => exact absurd rfl hs
    | true => cases hrest : (ofClauses v clauses).status <;> simp [hrest, Except.map, both]

end Cons

lemma literals_ofClauses (v : Valuation) (clauses : List Clause) :
    (ofClauses v clauses).clauses.map (·.literals) = clauses.map (·.literals) := by
  induction clauses with
  | nil => rfl
  | cons c clauses ih =>
    unfold ofClauses
    obtain ⟨status, cache, h⟩ | ⟨fault, cache, h⟩ := c.refresh_cases v
    · rw [h]
      match status with
      | some false => rfl
      | some true => simp [ih]
      | none => simp [ih]
    · rw [h]
      rfl

section InRange

variable {v : Valuation} {clauses : List Clause}

lemma status_ofClauses (h : ∀ c ∈ clauses, c.InRange v.size) :
    (ofClauses v clauses).status = .ok (v.status clauses) := by
  induction clauses with
  | nil => rfl
  | cons c clauses ih =>
    have hrest := ih fun d hd => h d (List.mem_cons_of_mem c hd)
    unfold ofClauses
    rw [Clause.refresh_eq (h c List.mem_cons_self)]
    match hc : (v.assess c.literals).status with
    | some false =>
      rw [Valuation.status_eq_false_iff.mpr ⟨c, List.mem_cons_self, hc⟩]
    | some true =>
      simp only [hrest]
      simp [Valuation.status, hc]
    | none =>
      simp only [hrest]
      simp only [Except.map, Valuation.status, List.mem_cons, exists_eq_or_imp, forall_eq_or_imp,
        hc]
      split <;> simp_all

/-- A sweep that gets to the end leaves no cache behind. -/
lemma clauses_ofClauses (h : ∀ c ∈ clauses, c.InRange v.size)
    (hs : v.status clauses ≠ some false) :
    (ofClauses v clauses).clauses = clauses.map (·.refreshed v) := by
  induction clauses with
  | nil => rfl
  | cons c clauses ih =>
    rw [Ne, Valuation.status_eq_false_iff] at hs
    have hrest : v.status clauses ≠ some false := by
      rw [Ne, Valuation.status_eq_false_iff]
      rintro ⟨d, hd, hf⟩
      exact hs ⟨d, List.mem_cons_of_mem c hd, hf⟩
    have heq := ih (fun d hd => h d (List.mem_cons_of_mem c hd)) hrest
    unfold ofClauses
    rw [Clause.refresh_eq (h c List.mem_cons_self)]
    match hc : (v.assess c.literals).status with
    | some false => exact absurd ⟨c, List.mem_cons_self, hc⟩ hs
    | some true => simp [heq]
    | none => simp [heq]

end InRange

end Sweep

namespace Assignment

lemma Extends.holds_of_status {σ : Assignment} {v : Valuation} (h : σ.Extends v)
    {clauses : List Clause} (hs : v.status clauses = some true) : ∀ c ∈ clauses, c.Holds σ := by
  intro c hc
  have ht := Valuation.status_eq_true_iff.mp hs c hc
  obtain ⟨l, hl, hlt⟩ := Valuation.status_assess_eq_true_iff.mp ht
  exact ⟨l, hl, h.holds hlt⟩

lemma Extends.not_forall_holds {σ : Assignment} {v : Valuation} (h : σ.Extends v)
    {clauses : List Clause} (hs : v.status clauses = some false) : ¬ ∀ c ∈ clauses, c.Holds σ := by
  obtain ⟨c, hc, hf⟩ := Valuation.status_eq_false_iff.mp hs
  intro hall
  obtain ⟨l, hl, hlt⟩ := hall c hc
  exact h.not_holds (Valuation.status_assess_eq_false_iff.mp hf l hl) hlt

end Assignment

end Dpll
