import Dpll.Proofs.Clause
import Dpll.Proofs.Decision
import Dpll.Proofs.Finality

/-!
Why a forced literal needs no alternative. A model that agrees with the trail leaves one in which
the literal is true: it has to be the case if the literal is the last one of a clause, and the
model may be changed if it is pure. Main statement: this, and that a pure literal makes no clause
false.
-/

namespace Dpll

/-- A clause all of whose literals have a value does not come to be false, but is so already. -/
lemma Valuation.Extends.status_eq_false {v w : Valuation} (h : w.Extends v)
    {literals : List Literal} (hvalued : ∀ l ∈ literals, v.truth l ≠ none)
    (hf : (w.assess literals).status = some false) :
    (v.assess literals).status = some false := by
  rw [status_assess_eq_false_iff] at hf ⊢
  intro l hl
  cases ht : v.truth l with
  | none => exact absurd ht (hvalued l hl)
  | some b => exact (h.truth ht).symm.trans (hf l hl)

namespace Trail

variable {p : Problem} {t : Trail} {l : Literal}

/-- A clause that comes to be false has been open. -/
lemma Consistent.mem_undecided_of_extends (h : t.Consistent p) (hu : t.UpToDate) {w : Valuation}
    (hext : w.Extends t.valuation) {c : Clause} (hc : c ∈ t.clauses)
    (hf : (w.assess c.literals).status = some false) : c ∈ t.undecided := by
  rw [h.mem_undecided_iff hu]
  refine ⟨hc, ?_⟩
  intro ht
  exact absurd (hf.symm.trans (hext.status_assess ht)) (by simp)

/-- Making a pure literal true falsifies no clause, since none that is open has its negation. -/
lemma Consistent.status_ne_false_of_pure (h : t.Consistent p) (hu : t.UpToDate)
    (hlt : l.symbol < t.valuation.size) (hnone : t.valuation.valueAt l.symbol = none)
    (hpure : ∀ k ∈ Census.openLiterals t.undecided, k.symbol = l.symbol → k = l) :
    (t.valuation.set l.symbol (some l.sign.satisfying)).status t.clauses ≠ some false := by
  have hext := Valuation.extends_set hlt hnone (some l.sign.satisfying)
  have htrue : (t.valuation.set l.symbol (some l.sign.satisfying)).truth l = some true := by
    rw [Valuation.truth_eq_some_iff]
    exact ⟨_, by rw [Valuation.valueAt_set hlt, if_pos rfl], beq_self_eq_true _⟩
  intro hf
  obtain ⟨c, hc, hfalse⟩ := Valuation.status_eq_false_iff.mp hf
  have hopen := h.mem_undecided_of_extends hu hext hc hfalse
  -- A literal that only now is false would be the negation of the pure one, in an open clause.
  have hvalued : ∀ k ∈ c.literals, t.valuation.truth k ≠ none := by
    intro k hk hkn
    have hkf := Valuation.status_assess_eq_false_iff.mp hfalse k hk
    have hsymbol : k.symbol = l.symbol := by
      by_contra hne
      rw [Valuation.truth, Valuation.valueAt_set hlt, if_neg (Ne.symm hne)] at hkf
      exact absurd (hkn.symm.trans hkf) (by simp)
    have hmem : k ∈ Census.openLiterals t.undecided :=
      (h.mem_openLiterals_iff hu).mpr ⟨c, hopen, hk, Valuation.truth_eq_none_iff.mp hkn⟩
    obtain rfl := hpure k hmem hsymbol
    exact absurd (hkf.symm.trans htrue) (by simp)
  have hbefore := hext.status_eq_false hvalued hfalse
  obtain ⟨status, hs, hne⟩ := hu
  rw [h.swept status hs, Ne, standing, Valuation.status_eq_false_iff] at hne
  exact hne ⟨c, hc, hbefore⟩

/-- A forced literal is one of a symbol that is to be chosen from, and making it true loses no
solution. If it is pure, no clause becomes false by it. -/
theorem forced_solvable_iff (ht : t.Reached p) {clauses : List Clause}
    (hopen : t.openClauses = .ok clauses) {pool : List Nat}
    (hpool : ∀ i, i ∈ pool ↔ t.valuation.value i = .ok none) {reason : Reason}
    (hchoice : Decision.choose t.valuation.size pool clauses = .force l reason) :
    t.valuation.value l.symbol = .ok none ∧ l.symbol ∈ pool ∧
      ((∃ σ : Assignment, σ.Agrees t.entries ∧ p.IsModel σ) ↔
        ∃ σ : Assignment, σ.Agrees t.entries ∧ p.IsModel σ ∧ l.Holds σ) ∧
      (reason = .pureLiteral → ∃ t', t.push l.symbol l.sign.satisfying = .ok () t' ∧
        (∀ c ∈ t'.clauses, c.evaluate t'.valuation ≠ .ok (some false)) ∧
        ∃ status t'', t'.status = .ok status t'' ∧ status ≠ some false) := by
  have hcons := ht.consistent
  obtain ⟨hu, rfl⟩ := upToDate_of_openClauses hopen
  obtain ⟨⟨hlt, hnone⟩, hkeeps⟩ := hcons.choose_force hu hchoice
  rw [← hcons.size_eq] at hlt
  have hfree : t.valuation.value l.symbol = .ok none := Valuation.value_eq_ok_iff.mpr ⟨hlt, hnone⟩
  refine ⟨hfree, (hpool _).mpr hfree, ⟨?_, ?_⟩, ?_⟩
  · intro hs
    obtain ⟨σ, hσ, hm⟩ := hkeeps hs
    rw [Assignment.agrees_cons] at hσ
    exact ⟨σ, hσ.2, hm, hσ.1⟩
  · rintro ⟨σ, hσ, hm, -⟩
    exact ⟨σ, hσ, hm⟩
  · rintro rfl
    obtain ⟨-, -, -, hpure⟩ | ⟨hreason, -⟩ := Decision.choose_force hchoice
    · have hopen' := hcons.status_ne_false_of_pure hu hlt hnone hpure
      have hpush := push_eq hlt hnone l.sign.satisfying
      have hcons' := (ht.push hpush).consistent
      refine ⟨_, hpush, ?_, _, _, hcons'.status_eq, ?_⟩
      · intro c hc hf
        rw [Clause.evaluate_eq (hcons'.inRange c hc), Except.ok.injEq] at hf
        exact hopen' (Valuation.status_eq_false_iff.mpr ⟨c, hc, hf⟩)
      · rw [verdict_of_ne_nil (by simp [Trail.extend])]
        exact hopen'
    · cases hreason

/-- With 1 false and 2 true, only the clause `1 -2 -3` is open, and the negation of 3 is forced as
a pure literal, although 3 itself is in a clause that is true. -/
theorem forced_solvable_iff_sample :
    ∃ t, Problem.sample.trail.afterAll [.status, .push 1 true, .push 0 false] = t ∧
      ((∃ σ : Assignment, σ.Agrees t.entries ∧ Problem.sample.IsModel σ) ↔
        ∃ σ : Assignment, σ.Agrees t.entries ∧ Problem.sample.IsModel σ ∧ σ 2 = false) ∧
      ∃ t', t.push 2 false = .ok () t' ∧
        ∀ c ∈ t'.clauses, c.evaluate t'.valuation ≠ .ok (some false) := by
  have hpool : ∀ i, i ∈ [2] ↔ (Problem.sample.trail.afterAll
      [.status, .push 1 true, .push 0 false]).valuation.value i = .ok none := by
    intro i
    rw [List.mem_singleton, Valuation.value_eq_ok_iff]
    constructor
    · rintro rfl
      decide
    · rintro ⟨hlt, hnone⟩
      change i < 3 at hlt
      interval_cases i
      · exact absurd hnone (by decide)
      · exact absurd hnone (by decide)
      · rfl
  obtain ⟨-, -, hmodel, hpush⟩ := forced_solvable_iff (reached_afterAll Problem.sample _) rfl hpool
    (show Decision.choose _ _ _ = .force (.pack 2 .negative) .pureLiteral by decide)
  refine ⟨_, rfl, hmodel, ?_⟩
  obtain ⟨t', ht', hopen, -⟩ := hpush rfl
  exact ⟨t', ht', hopen⟩

end Trail

end Dpll
