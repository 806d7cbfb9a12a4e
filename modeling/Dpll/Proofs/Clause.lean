import Dpll.Proofs.Cache

/-!
What the values make of a clause, with and without its cache. A refresh that comes to its end and
an evaluation agree, and such a refresh keeps the literals without a value unless the clause is
true; one that breaks off keeps those in front of the literal that it breaks off at. Nothing here
asks that all literals have a symbol: behind a true literal, neither looks.
-/

namespace Dpll

namespace Valuation

variable {v : Valuation} {l : Literal} {i : Nat} {x : Option Bool}

lemma value_eq_ok_iff : v.value i = .ok x ↔ i < v.size ∧ v.valueAt i = x := by
  by_cases hi : i < v.size
  · have hs : v.symbols[i]? = some v.symbols[i] := Array.getElem?_eq_getElem hi
    simp [value, symbolAt, valueAt, hs, hi, Functor.map, Except.map]
  · have hs : v.symbols[i]? = none := Array.getElem?_eq_none (Nat.le_of_not_lt hi)
    simp [value, symbolAt, hs, hi, Functor.map, Except.map]

lemma evaluate_eq_error {fault : Fault} (h : v.evaluate l = .error fault) :
    fault = .outOfRange l.symbol ∧ v.size ≤ l.symbol := by
  by_cases hl : l.symbol < v.size
  · rw [evaluate_eq hl] at h
    cases h
  · have hs : v.symbols[l.symbol]? = none := Array.getElem?_eq_none (Nat.le_of_not_lt hl)
    simp only [evaluate, value, symbolAt, hs] at h
    cases h
    exact ⟨rfl, Nat.le_of_not_lt hl⟩

lemma lt_size_of_evaluate (h : v.evaluate l = .ok x) : l.symbol < v.size := by
  unfold evaluate at h
  cases hv : v.value l.symbol with
  | error fault =>
    rw [hv] at h
    cases h
  | ok y => exact (value_eq_ok_iff.mp hv).1

end Valuation

namespace Clause

/-- The literals without a value, in clause order. -/
def free (v : Valuation) (c : Clause) : List Literal :=
  c.literals.filter fun l => v.value l.symbol = .ok none

/-- The cache belongs to these values. -/
def IsCurrent (v : Valuation) (c : Clause) : Prop :=
  c.evaluate v = .ok c.cache.status ∧
    c.cache.unassigned = if c.cache.status = some true then [] else c.free v

/-- The literal has no symbol, those in front of it have one and are not true, and the cache covers
those in front. -/
def BreaksAt (v : Valuation) (l : Literal) (c : Clause) : Prop :=
  v.size ≤ l.symbol ∧ ∃ front back, c.literals = front ++ l :: back ∧
    (∀ k ∈ front, k.symbol < v.size ∧ v.truth k ≠ some true) ∧
    c.cache.unassigned = front.filter (v.truth · = none) ∧
    c.cache.status = if c.cache.unassigned = [] then some false else none

/-- The clauses that are not true, in input order. -/
def untrue (v : Valuation) (clauses : List Clause) : List Clause :=
  clauses.filter fun c => c.evaluate v ≠ .ok (some true)

section Scan

variable {v : Valuation} {l : Literal} {literals : List Literal} {cache : Cache}

lemma scan_cons_none (hl : v.evaluate l = .ok none) :
    scan v (l :: literals) =
      (if (scan v literals).1.status = some true then { status := some true }
        else { unassigned := l :: (scan v literals).1.unassigned }, (scan v literals).2) := by
  rw [scan, hl]
  obtain ⟨⟨status, unassigned⟩, fault⟩ := scan v literals
  cases status with
  | none => rfl
  | some b => cases b <;> rfl

lemma evaluateLiterals_of_scan (h : scan v literals = (cache, none)) :
    evaluateLiterals v literals = .ok cache.status := by
  induction literals generalizing cache with
  | nil =>
    cases h
    rfl
  | cons l literals ih =>
    cases hl : v.evaluate l with
    | error fault =>
      rw [scan, hl] at h
      cases h
    | ok x =>
      cases x with
      | some b =>
        rw [scan, hl] at h
        rw [evaluateLiterals, hl]
        cases b with
        | true =>
          cases h
          rfl
        | false => exact ih h
      | none =>
        rw [scan_cons_none hl, Prod.mk.injEq] at h
        obtain ⟨rfl, hfault⟩ := h
        have hrest := ih (Prod.ext rfl hfault)
        rw [evaluateLiterals, hl]
        change (do
          let status ← evaluateLiterals v literals
          return if status = some true then some true else none) = _
        rw [hrest]
        by_cases ht : (scan v literals).1.status = some true
        · simp [ht, bind, Except.bind, pure, Except.pure]
        · simp [ht, bind, Except.bind, pure, Except.pure]

/-- A refresh that does not end at a true literal has looked at every literal. -/
lemma inRange_of_scan (h : scan v literals = (cache, none)) (hs : cache.status ≠ some true) :
    ∀ l ∈ literals, l.symbol < v.size := by
  induction literals generalizing cache with
  | nil => simp
  | cons l literals ih =>
    cases hl : v.evaluate l with
    | error fault =>
      rw [scan, hl] at h
      cases h
    | ok x =>
      have hlt := Valuation.lt_size_of_evaluate hl
      cases x with
      | some b =>
        rw [scan, hl] at h
        cases b with
        | true =>
          cases h
          exact absurd rfl hs
        | false => exact List.forall_mem_cons.mpr ⟨hlt, ih h hs⟩
      | none =>
        rw [scan_cons_none hl, Prod.mk.injEq] at h
        obtain ⟨rfl, hfault⟩ := h
        by_cases ht : (scan v literals).1.status = some true
        · simp [ht] at hs
        · exact List.forall_mem_cons.mpr ⟨hlt, ih (Prod.ext rfl hfault) ht⟩

/-- The literals that a scan finds without a value say what it comes to, unless it comes to true. -/
lemma scan_cases (v : Valuation) (literals : List Literal) :
    (scan v literals).1 = { status := some true } ∨
      (scan v literals).1.status =
        if (scan v literals).1.unassigned = [] then some false else none := by
  induction literals with
  | nil => exact .inr rfl
  | cons l literals ih =>
    cases hl : v.evaluate l with
    | error fault =>
      rw [scan, hl]
      exact .inr rfl
    | ok x =>
      cases x with
      | some b =>
        rw [scan, hl]
        cases b with
        | true => exact .inl rfl
        | false => exact ih
      | none =>
        rw [scan_cons_none hl]
        by_cases ht : (scan v literals).1.status = some true
        · exact .inl (if_pos ht)
        · right
          simp [ht]

lemma scan_of_status_eq_true (h : (scan v literals).1.status = some true) :
    (scan v literals).1 = { status := some true } := by
  obtain hcache | hstatus := scan_cases v literals
  · exact hcache
  · rw [h] at hstatus
    split at hstatus <;> cases hstatus

/-- A scan that breaks off has met a literal without a symbol and no true one. -/
lemma breaksAt_of_scan {fault : Fault} (h : scan v literals = (cache, some fault)) :
    ∃ l, fault = .outOfRange l.symbol ∧ BreaksAt v l { literals, cache } := by
  induction literals generalizing cache with
  | nil => cases h
  | cons l literals ih =>
    cases hl : v.evaluate l with
    | error fault' =>
      rw [scan, hl] at h
      cases h
      have hle := Valuation.evaluate_eq_error hl
      exact ⟨l, hle.1, hle.2, [], literals, rfl, by simp, rfl, rfl⟩
    | ok x =>
      have hlt := Valuation.lt_size_of_evaluate hl
      have htruth : v.truth l = x := by
        rw [Valuation.evaluate_eq hlt] at hl
        exact Except.ok.inj hl
      cases x with
      | some b =>
        cases b with
        | true =>
          rw [scan, hl] at h
          cases h
        | false =>
          rw [scan, hl] at h
          obtain ⟨k, hk, hsize, front, back, heq, hfront, hfree, hstatus⟩ := ih h
          refine ⟨k, hk, hsize, l :: front, back, by simpa using heq, ?_, ?_, hstatus⟩
          · exact List.forall_mem_cons.mpr ⟨⟨hlt, by simp [htruth]⟩, hfront⟩
          · simpa [htruth] using hfree
      | none =>
        rw [scan_cons_none hl, Prod.mk.injEq] at h
        obtain ⟨rfl, hfault⟩ := h
        obtain ⟨k, hk, hsize, front, back, heq, hfront, hfree, hstatus⟩ :=
          ih (Prod.ext rfl hfault)
        have ht : (scan v literals).1.status ≠ some true := by
          rw [hstatus]
          split <;> simp
        refine ⟨k, hk, hsize, l :: front, back, by simpa using heq, ?_, ?_, ?_⟩
        · exact List.forall_mem_cons.mpr ⟨⟨hlt, by simp [htruth]⟩, hfront⟩
        · simpa [ht, htruth] using hfree
        · simp [ht]

end Scan

section Clause

variable {v : Valuation} {c : Clause} {status : Option Bool}

lemma mem_free_iff {l : Literal} :
    l ∈ c.free v ↔ l ∈ c.literals ∧ v.value l.symbol = .ok none := by
  simp [free]

lemma free_eq (h : c.InRange v.size) : c.free v = c.literals.filter (v.truth · = none) := by
  apply List.filter_congr
  intro l hl
  rw [decide_eq_decide, Valuation.value_eq_ok_iff, Valuation.truth_eq_none_iff]
  exact and_iff_right (h l hl)

/-- A refresh reads nothing but the literals and writes nothing but the cache. -/
lemma refresh_eq_scan (v : Valuation) (c : Clause) :
    c.refresh v =
      match (scan v c.literals).2 with
      | none => .ok (scan v c.literals).1.status { c with cache := (scan v c.literals).1 }
      | some fault => .error fault { c with cache := (scan v c.literals).1 } := by
  unfold refresh
  cases hs : scan v c.literals with
  | mk cache fault => cases fault <;> rfl

lemma refresh_eq_ok_iff {d : Clause} :
    c.refresh v = .ok status d ↔
      (scan v c.literals).2 = none ∧ status = (scan v c.literals).1.status ∧
        d = { c with cache := (scan v c.literals).1 } := by
  rw [refresh_eq_scan]
  cases (scan v c.literals).2 with
  | none => simp [eq_comm]
  | some fault => simp

lemma refresh_eq_error_iff {fault : Fault} {d : Clause} :
    c.refresh v = .error fault d ↔
      (scan v c.literals).2 = some fault ∧ d = { c with cache := (scan v c.literals).1 } := by
  rw [refresh_eq_scan]
  cases (scan v c.literals).2 with
  | none => simp
  | some fault => simp [eq_comm]

/-- What is in the cache of a clause that a refresh leaves as it is. -/
lemma cache_of_refresh (h : c.refresh v = .ok status c) :
    c.evaluate v = .ok c.cache.status ∧
      (c.cache.status ≠ some true → c.cache.unassigned = c.free v) := by
  have hscan : scan v c.literals = (c.cache, none) := by
    obtain ⟨hfault, -, hc⟩ := refresh_eq_ok_iff.mp h
    exact Prod.ext (congrArg cache hc).symm hfault
  refine ⟨evaluateLiterals_of_scan hscan, ?_⟩
  intro ht
  have hrange : c.InRange v.size := inRange_of_scan hscan ht
  rw [scan_eq hrange] at hscan
  have hcache : v.assess c.literals = c.cache := congrArg Prod.fst hscan
  rw [free_eq hrange, ← hcache]
  rw [← hcache] at ht
  exact Valuation.unassigned_assess ht

/-- A refresh that comes to its end would do the same again, and leaves a current cache. -/
lemma refresh_again {d : Clause} (h : c.refresh v = .ok status d) :
    d.refresh v = .ok status d ∧ d.cache.status = status ∧ d.IsCurrent v := by
  have hagain : d.refresh v = .ok status d := by
    obtain ⟨hfault, rfl, rfl⟩ := refresh_eq_ok_iff.mp h
    exact refresh_eq_ok_iff.mpr ⟨hfault, rfl, rfl⟩
  obtain ⟨hfault, hstatus, hd⟩ := refresh_eq_ok_iff.mp hagain
  have hcache : d.cache = (scan v d.literals).1 := congrArg cache hd
  obtain ⟨heval, hfree⟩ := cache_of_refresh hagain
  refine ⟨hagain, by rw [hcache, hstatus], heval, ?_⟩
  split
  next ht =>
    rw [hcache] at ht ⊢
    rw [scan_of_status_eq_true ht]
  next ht => exact hfree ht

/-- A refresh that breaks off would do so again. -/
lemma refresh_again_of_error {fault : Fault} {d : Clause} (h : c.refresh v = .error fault d) :
    d.refresh v = .error fault d ∧ ∃ l, fault = .outOfRange l.symbol ∧ d.BreaksAt v l := by
  obtain ⟨hfault, rfl⟩ := refresh_eq_error_iff.mp h
  exact ⟨refresh_eq_error_iff.mpr ⟨hfault, rfl⟩, breaksAt_of_scan (Prod.ext rfl hfault)⟩

end Clause

end Clause

end Dpll
