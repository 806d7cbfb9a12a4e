import Mathlib
import Dpll.Proofs.Formula
import Dpll.Proofs.Search.Run

/-!
The answer of a search. Main statement: a search that starts on an empty trail and is not stopped
always answers, that there is a solution exactly if there is one and that there is none exactly if
there is none. This holds for all clauses that have literals, in particular for those of a file.
-/

namespace Dpll

/-- A trail whose clauses are all true holds a part of a model that may be completed freely. -/
lemma Trail.Consistent.isModel {p : Problem} {t : Trail} (h : t.Consistent p)
    (ht : t.standing = some true) {σ : Assignment} (hσ : σ.Agrees t.entries) : p.IsModel σ := by
  rw [← h.isModel_iff]
  exact ((h.agrees_iff σ).mp hσ).holds_of_status ht

lemma Assignment.Agrees.suffix {σ : Assignment} {base entries : List Entry}
    (h : σ.Agrees entries) (hs : base <:+ entries) : σ.Agrees base :=
  fun e he => h e (hs.subset he)

lemma Problem.solvable_nil {p : Problem} : p.Solvable [] ↔ ∃ σ, p.IsModel σ := by
  simp [Solvable]

namespace Search

variable {p : Problem} {t : Trail} {s : Search} {base : List Entry}

lemma Solved.solvable (h : s.Solved p) (hbase : base <:+ s.trail.entries) : p.Solvable base := by
  have hσ : (Assignment.ofValuation s.trail.valuation).Agrees s.trail.entries :=
    (h.consistent.agrees_iff _).mpr (Assignment.extends_ofValuation _)
  exact ⟨_, hσ.suffix hbase, h.consistent.isModel h.standing_eq hσ⟩

lemma ready_new (h : t.Consistent p) (hnil : t.entries = []) : (new t).Ready p where
  consistent := h
  pooled := by
    constructor
    · exact List.nodup_range
    · intro i
      have hnone : t.valuation.valueAt i = none := by
        rw [h.valueAt_eq_none_iff, hnil]
        simp
      simp only [new, List.mem_range, h.size_eq, hnone, and_true]

lemma not_stops_unlimited (visited : Nat) : (Schedule.unlimited visited).stops ≠ true := by
  simp [Schedule.unlimited, Poll.stops]

/-- The search over this trail answers, and its answer is the right one. -/
def Decides (t : Trail) : Prop :=
  ∃ solution s, (new t).solve .unlimited = .ok solution s ∧
    (solution.isSat = true ↔ ∃ σ : Assignment, ∀ c ∈ t.clauses, c.Holds σ) ∧
    (solution = .unsat ↔ ¬ ∃ σ : Assignment, ∀ c ∈ t.clauses, c.Holds σ)

/-- A search over a proper problem ends with a solution, or without one where there is none. -/
lemma answered_of_proper (hp : p.Proper) :
    (∃ s, (new p.trail).solve .unlimited = .ok (.ofValuation s.trail.valuation) s ∧ s.Solved p) ∨
      ∃ s, (new p.trail).solve .unlimited = .ok .unsat s ∧ ¬ p.Solvable [] := by
  have hready : (new p.trail).Ready p := ready_new (.new p) rfl
  have hended := ended_solve hp hready .unlimited
  have hbase : (new p.trail).trail.entries = [] := rfl
  rw [hbase] at hended
  generalize (new p.trail).solve .unlimited = r at hended
  cases hended with
  | interrupted hstop => exact absurd hstop (not_stops_unlimited _)
  | solved hs => exact .inl ⟨_, rfl, hs⟩
  | unsat hs hbase hnil hnone => exact .inr ⟨_, rfl, hnone⟩
  | notEmpty hs hbase hne => exact absurd rfl hne

lemma decides_of_proper (hp : p.Proper) : Decides p.trail := by
  have hmodel : (∃ σ : Assignment, ∀ c ∈ p.trail.clauses, c.Holds σ) ↔ p.Solvable [] :=
    Problem.solvable_nil.symm
  unfold Decides
  simp only [hmodel]
  obtain ⟨s, hsolve, hs⟩ | ⟨s, hsolve, hnone⟩ := answered_of_proper hp
  · have hsolvable : p.Solvable [] := hs.solvable (List.nil_suffix)
    exact ⟨_, s, hsolve, by simp [Solution.ofValuation, Solution.isSat, hsolvable],
      by simp [Solution.ofValuation, hsolvable]⟩
  · exact ⟨_, s, hsolve, by simp [Solution.isSat, hnone], by simp [hnone]⟩

/-- The verdict of a search is right. -/
theorem solve_decides :
    (∀ p : Problem, p.Proper → Decides p.trail) ∧
      ∀ text f, Formula.parse text = .ok f → Decides f.trail := by
  constructor
  · intro p hp
    exact decides_of_proper hp
  · intro text f hf
    obtain ⟨p, hp, htrail, -⟩ := Formula.exists_problem hf
    rw [← htrail]
    exact decides_of_proper hp

theorem solve_decides_sample :
    (Problem.sample.Proper ∧ Decides Problem.sample.trail) ∧
      ∃ f, Formula.parse "-1 2\n-1 -2\n1 2 3\n1 -2 -3\n0\n" = .ok f ∧ Decides f.trail := by
  refine ⟨⟨by decide, solve_decides.1 _ (by decide)⟩,
    ⟨.ofIds Problem.sample.ids, Problem.sample.clauses, ""⟩, ?_⟩
  have hparse : Formula.parse "-1 2\n-1 -2\n1 2 3\n1 -2 -3\n0\n" =
      .ok ⟨.ofIds Problem.sample.ids, Problem.sample.clauses, ""⟩ := by
    cbv
  exact ⟨hparse, solve_decides.2 _ _ hparse⟩

end Search

end Dpll
