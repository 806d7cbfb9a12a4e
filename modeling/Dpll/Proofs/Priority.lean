import Dpll.Proofs.Calls
import Dpll.Proofs.Clause
import Dpll.Proofs.Tables

/-!
Which decision is due at a node. The rule speaks of the literals without a value in the clauses
that are not true: the first symbol of the pool that occurs with one sign only is forced, else the
literal that is alone in the first such clause, and else the search has to guess. Main statement:
over caches that are up to date a scan comes to the decision that is due, for any pool and any
tables.
-/

namespace Dpll

namespace Trail

/-- All caches are up to date: a refresh would leave each clause as it is. -/
structure Current (t : Trail) : Prop where
  upToDate : t.UpToDate
  refresh_eq : ∀ c ∈ t.clauses, ∃ status, c.refresh t.valuation = .ok status c

/-- The literals without a value in the clauses that are not true. -/
def occurrences (t : Trail) : List Literal :=
  (Clause.untrue t.valuation t.clauses).flatMap (·.free t.valuation)

/-- The symbol occurs, and only with the sign of this literal. -/
def IsPure (t : Trail) (l : Literal) : Prop :=
  l ∈ t.occurrences ∧ ∀ k ∈ t.occurrences, k.symbol = l.symbol → k.sign = l.sign

/-- The decision that is due, for this order of the pool. -/
inductive Due (t : Trail) (pool : List Nat) : Decision → Prop
  | pureLiteral {l : Literal} {before after : List Nat}
      (hpool : pool = before ++ l.symbol :: after) (hl : t.IsPure l)
      (hbefore : ∀ k, t.IsPure k → k.symbol ∉ before) : Due t pool (.force l .pureLiteral)
  | unitClause {l : Literal} {before after : List Clause} {c : Clause}
      (hpure : ∀ k, t.IsPure k → k.symbol ∉ pool)
      (hclauses : Clause.untrue t.valuation t.clauses = before ++ c :: after)
      (hc : c.free t.valuation = [l])
      (hbefore : ∀ d ∈ before, (d.free t.valuation).length ≠ 1) :
      Due t pool (.force l .unitClause)
  | branch (hpure : ∀ k, t.IsPure k → k.symbol ∉ pool)
      (hunit : ∀ c ∈ Clause.untrue t.valuation t.clauses, (c.free t.valuation).length ≠ 1) :
      Due t pool .branch

lemma Consistent.toCurrent {p : Problem} {t : Trail} (h : t.Consistent p) (hu : t.UpToDate) :
    t.Current := by
  refine ⟨hu, ?_⟩
  obtain ⟨status, hs, hne⟩ := hu
  intro c hc
  have hkept : c.refreshed t.valuation = c := by
    rw [Clause.refreshed, ← h.current status hs hne c hc]
  exact ⟨_, hkept ▸ Clause.refresh_eq (h.inRange c hc)⟩

lemma lt_size_of_mem_occurrences {t : Trail} {l : Literal} (h : l ∈ t.occurrences) :
    l.symbol < t.valuation.size := by
  obtain ⟨c, -, hl⟩ := List.mem_flatMap.mp h
  exact (Valuation.value_eq_ok_iff.mp (Clause.mem_free_iff.mp hl).2).1

namespace Current

variable {t : Trail} {l : Literal}

lemma undecided_eq (h : t.Current) : t.undecided = Clause.untrue t.valuation t.clauses := by
  apply List.filter_congr
  intro c hc
  obtain ⟨status, hrefresh⟩ := h.refresh_eq c hc
  rw [(Clause.cache_of_refresh hrefresh).1]
  simp

lemma unassigned_eq (h : t.Current) {c : Clause}
    (hc : c ∈ Clause.untrue t.valuation t.clauses) :
    c.cache.unassigned = c.free t.valuation := by
  obtain ⟨hmem, htrue⟩ := List.mem_filter.mp hc
  obtain ⟨status, hrefresh⟩ := h.refresh_eq c hmem
  obtain ⟨hworth, hunassigned⟩ := Clause.cache_of_refresh hrefresh
  apply hunassigned
  intro ht
  simp [hworth, ht] at htrue

lemma openLiterals_eq (h : t.Current) :
    Census.openLiterals (Clause.untrue t.valuation t.clauses) = t.occurrences :=
  List.flatMap_congr fun _ hc => h.unassigned_eq hc

lemma pureLiteral?_eq_some_iff (h : t.Current) {i : Nat} :
    (Census.ofClauses t.valuation.size t.undecided).pureLiteral? i = some l ↔
      l.symbol = i ∧ t.IsPure l := by
  rw [Census.pureLiteral?_eq_some_iff, h.undecided_eq, h.openLiterals_eq]
  constructor
  · rintro ⟨-, rfl, hl, hall⟩
    exact ⟨rfl, hl, fun k hk hsymbol => by rw [hall k hk hsymbol]⟩
  · rintro ⟨rfl, hl, hall⟩
    exact ⟨lt_size_of_mem_occurrences hl, rfl, hl,
      fun k hk hsymbol => Literal.eq_of_sign_eq hsymbol (hall k hk hsymbol)⟩

lemma findSome?_pureLiteral?_eq_none_iff (h : t.Current) {pool : List Nat} :
    pool.findSome? (Census.ofClauses t.valuation.size t.undecided).pureLiteral? = none ↔
      ∀ k, t.IsPure k → k.symbol ∉ pool := by
  rw [List.findSome?_eq_none_iff]
  constructor
  · intro hnone k hk hmem
    have hsome := h.pureLiteral?_eq_some_iff.mpr ⟨rfl, hk⟩
    rw [hnone _ hmem] at hsome
    cases hsome
  · intro hpure i hi
    rw [Option.eq_none_iff_forall_ne_some]
    intro k hsome
    obtain ⟨rfl, hk⟩ := h.pureLiteral?_eq_some_iff.mp hsome
    exact hpure k hk hi

lemma findSome?_pureLiteral?_eq_some_iff (h : t.Current) {pool : List Nat} :
    pool.findSome? (Census.ofClauses t.valuation.size t.undecided).pureLiteral? = some l ↔
      ∃ before after, pool = before ++ l.symbol :: after ∧ t.IsPure l ∧
        ∀ k, t.IsPure k → k.symbol ∉ before := by
  rw [List.findSome?_eq_some_iff]
  constructor
  · rintro ⟨before, i, after, hpool, hi, hbefore⟩
    obtain ⟨rfl, hl⟩ := h.pureLiteral?_eq_some_iff.mp hi
    rw [← List.findSome?_eq_none_iff, h.findSome?_pureLiteral?_eq_none_iff] at hbefore
    exact ⟨before, after, hpool, hl, hbefore⟩
  · rintro ⟨before, after, hpool, hl, hbefore⟩
    rw [← h.findSome?_pureLiteral?_eq_none_iff, List.findSome?_eq_none_iff] at hbefore
    exact ⟨before, l.symbol, after, hpool, h.pureLiteral?_eq_some_iff.mpr ⟨rfl, hl⟩, hbefore⟩

lemma soleLiteral?_eq_some_iff (h : t.Current) {c : Clause}
    (hc : c ∈ Clause.untrue t.valuation t.clauses) :
    c.soleLiteral? = some l ↔ c.free t.valuation = [l] := by
  rw [Clause.soleLiteral?_eq_some_iff, h.unassigned_eq hc]

lemma soleLiteral?_eq_none_iff (h : t.Current) {c : Clause}
    (hc : c ∈ Clause.untrue t.valuation t.clauses) :
    c.soleLiteral? = none ↔ (c.free t.valuation).length ≠ 1 := by
  rw [Option.eq_none_iff_forall_ne_some, Ne, List.length_eq_one_iff, not_exists]
  exact forall_congr' fun _ => not_congr (h.soleLiteral?_eq_some_iff hc)

lemma findSome?_soleLiteral?_eq_none_iff (h : t.Current) :
    t.undecided.findSome? (·.soleLiteral?) = none ↔
      ∀ c ∈ Clause.untrue t.valuation t.clauses, (c.free t.valuation).length ≠ 1 := by
  rw [List.findSome?_eq_none_iff, h.undecided_eq]
  exact forall₂_congr fun _ hc => h.soleLiteral?_eq_none_iff hc

lemma findSome?_soleLiteral?_eq_some_iff (h : t.Current) :
    t.undecided.findSome? (·.soleLiteral?) = some l ↔
      ∃ before c after, Clause.untrue t.valuation t.clauses = before ++ c :: after ∧
        c.free t.valuation = [l] ∧ ∀ d ∈ before, (d.free t.valuation).length ≠ 1 := by
  rw [List.findSome?_eq_some_iff, h.undecided_eq]
  apply exists_congr
  intro before
  apply exists_congr
  intro c
  apply exists_congr
  intro after
  apply and_congr_right
  intro hclauses
  have hmem : ∀ d ∈ before ++ c :: after, d ∈ Clause.untrue t.valuation t.clauses := by
    rw [hclauses]
    exact fun _ hd => hd
  rw [h.soleLiteral?_eq_some_iff (hmem c (by simp))]
  apply and_congr_right
  intro _
  exact forall₂_congr fun d hd => h.soleLiteral?_eq_none_iff (hmem d (by simp [hd]))

/-- One decision is due, which is the one that the search makes. -/
lemma due_iff (h : t.Current) {pool : List Nat} {d : Decision} :
    t.Due pool d ↔ d = Decision.choose t.valuation.size pool t.undecided := by
  rw [Decision.choose_eq]
  constructor
  · intro hd
    cases hd with
    | pureLiteral hpool hl hbefore =>
      rw [h.findSome?_pureLiteral?_eq_some_iff.mpr ⟨_, _, hpool, hl, hbefore⟩]
      rfl
    | unitClause hpure hclauses hc hbefore =>
      rw [h.findSome?_pureLiteral?_eq_none_iff.mpr hpure,
        h.findSome?_soleLiteral?_eq_some_iff.mpr ⟨_, _, _, hclauses, hc, hbefore⟩]
      rfl
    | branch hpure hunit =>
      rw [h.findSome?_pureLiteral?_eq_none_iff.mpr hpure,
        h.findSome?_soleLiteral?_eq_none_iff.mpr hunit]
      rfl
  · rintro rfl
    cases hpure : pool.findSome? (Census.ofClauses t.valuation.size t.undecided).pureLiteral? with
    | some l =>
      obtain ⟨before, after, hpool, hl, hbefore⟩ := h.findSome?_pureLiteral?_eq_some_iff.mp hpure
      exact .pureLiteral hpool hl hbefore
    | none =>
      rw [h.findSome?_pureLiteral?_eq_none_iff] at hpure
      cases hunit : t.undecided.findSome? (·.soleLiteral?) with
      | some l =>
        obtain ⟨before, c, after, hclauses, hc, hbefore⟩ :=
          h.findSome?_soleLiteral?_eq_some_iff.mp hunit
        exact .unitClause hpure hclauses hc hbefore
      | none => exact .branch hpure (h.findSome?_soleLiteral?_eq_none_iff.mp hunit)

end Current

end Trail

/-- Over caches that are up to date a scan makes the decision that is due and no other, whatever
the order of the pool and the contents of the tables. It changes nothing but the tables, and the
search goes by the same decision. -/
theorem Solver.decide_due {s : Search} {tables : Tables} (h : s.trail.Current)
    (htables : tables.polarity.size = s.trail.valuation.size)
    (hpool : ∀ i ∈ s.pool, i < s.trail.valuation.size) :
    ∃ d tables' clauses, Solver.decide ⟨s, tables⟩ = .ok d ⟨s, tables'⟩ ∧
      (∀ e, s.trail.Due s.pool e ↔ e = d) ∧
      s.trail.openClauses = .ok clauses ∧
      Decision.choose s.trail.valuation.size s.pool clauses = d := by
  have hopen := h.upToDate.openClauses_eq
  have hclauses : ∀ l ∈ Census.openLiterals s.trail.undecided,
      l.symbol < s.trail.valuation.size := by
    rw [h.undecided_eq, h.openLiterals_eq]
    exact fun l hl => Trail.lt_size_of_mem_occurrences hl
  obtain ⟨tables', hdecide⟩ := Solver.decide_eq hopen htables hclauses hpool
  exact ⟨_, tables', _, hdecide, fun _ => h.due_iff, hopen, rfl⟩

/-- With 1 false and 2 true the negation of 3 is due, though the tables say from before that 3 is
positive and not pure, and the pool begins with a symbol that has a value. -/
theorem Solver.decide_due_sample :
    ∃ s tables, Problem.sample.trail.afterAll [.status, .push 1 true, .push 0 false] = s.trail ∧
      s.pool = [0, 2, 1] ∧ tables.polarity = #[some .negative, none, some .positive] ∧
      2 ∈ tables.impure ∧
      s.trail.Due s.pool (.force (.pack 2 .negative) .pureLiteral) ∧
      ∃ tables', Solver.decide ⟨s, tables⟩ =
        .ok (.force (.pack 2 .negative) .pureLiteral) ⟨s, tables'⟩ := by
  let s : Search := {
    trail := Problem.sample.trail.afterAll [.status, .push 1 true, .push 0 false]
    pool := [0, 2, 1] }
  let tables : Tables := ⟨#[some .negative, none, some .positive], {2}⟩
  have hcurrent : s.trail.Current :=
    (Trail.reached_afterAll Problem.sample _).consistent.toCurrent ⟨none, rfl, by decide⟩
  obtain ⟨d, tables', clauses, hdecide, hdue, hopen, hd⟩ :=
    Solver.decide_due hcurrent (show tables.polarity.size = _ from rfl) (by decide)
  cases hopen
  have hforce : d = .force (.pack 2 .negative) .pureLiteral := hd.symm.trans (by decide)
  subst hforce
  exact ⟨s, tables, rfl, rfl, rfl, by simp [tables], (hdue _).mpr rfl, tables', hdecide⟩

end Dpll
