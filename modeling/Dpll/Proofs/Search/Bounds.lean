import Dpll.Proofs.Search.Account
import Dpll.Proofs.Search.Interruption
import Dpll.Proofs.Search.Recursion

/-!
How long a run can get. The budget of a run pays for each of its nodes, and each frame holds a
symbol that is missing from the pool. Main statement: over a pool of `u` symbols a run that nothing
stops ends within `2 ^ (u + 1) - 1` nodes, takes back fewer assignments than that, and never has
more than `u` frames.
-/

namespace Dpll

namespace Search

lemma treeSize_eq (n : Nat) : treeSize n = 2 ^ (n + 1) - 1 := by
  induction n with
  | zero => rfl
  | succ n ih =>
    have hpos : 0 < 2 ^ (n + 1) := Nat.two_pow_pos _
    rw [treeSize, ih, Nat.pow_succ 2 (n + 1)]
    omega

section Polled

variable {schedule : Schedule} {s s' : Search} {n : Nat} {frames : List Frame}

lemma budget_pos (s : Search) (frames : List Frame) : 0 < budget s frames :=
  Nat.add_pos_left (treeSize_pos _) _

/-- The nodes of a run so far are paid out of its budget. -/
lemma Polled.budget_le (h : Polled schedule s n frames s') :
    n + budget s' frames ≤ treeSize s.pool.length := by
  induction h with
  | start => simp [budget, alternatives]
  | next _ hturn ih =>
    have hbudget := budget_turn hturn
    omega

/-- The symbols of the frames are those that are missing from the pool. -/
lemma Polled.length_eq (h : Polled schedule s n frames s') :
    s'.pool.length + frames.length = s.pool.length := by
  induction h with
  | start => rfl
  | @next n frames frames' s₁ s₂ _ hturn ih =>
    have hadvance := length_advance frames s₁
    rw [(turn_eq_pending_iff.mp hturn).2] at hadvance
    exact hadvance.trans ih

end Polled

variable {p : Problem} {s : Search}

lemma nodes_solve_le (s : Search) :
    (final (s.solve .unlimited)).stats.nodes ≤ s.stats.nodes + treeSize s.pool.length := by
  obtain ⟨n, frames, s', hpolled, hend⟩ := exists_last_poll .unlimited s
  have hnode := (steady_withinNode.turn (not_stops_unlimited n) frames s').nodes_eq
  rw [hend, nodes_enter, hpolled.visits_eq.1] at hnode
  have hbudget := hpolled.budget_le
  have hpos := budget_pos s' frames
  calc (final (s.solve .unlimited)).stats.nodes
      = s.stats.nodes + n + 1 := hnode
    _ ≤ s.stats.nodes + treeSize s.pool.length := by omega

/-- A run that is not cut short takes back less than it visits. -/
lemma Balanced.backtracks_lt {growth : Stats} {r : EStateM.Result Stop Search Solution}
    (h : Balanced s growth r) (hends : ∀ n s', r ≠ .error (.interrupted n) s')
    (hlength : s.trail.length ≤ (final r).trail.length) : growth.backtracks < growth.nodes := by
  match r, h with
  | .ok (.sat _) s', h =>
    have hbalanced : growth.nodes + s.trail.length = 1 + growth.backtracks + s'.trail.length := h
    simp only [final] at hlength
    omega
  | .ok .unsat _, ⟨_, hnodes⟩ => omega
  | .error (.fault _) _, ⟨_, hnodes⟩ => omega
  | .error (.interrupted n) s', _ => exact absurd rfl (hends n s')

lemma Kept.suffix {base : List Entry} {r : EStateM.Result Stop Search Solution}
    (h : Kept p base r) : base <:+ (final r).trail.entries := by
  cases h with
  | sat _ hbase | unsat _ hbase | stopped _ hbase => exact hbase

lemma backtracks_solve_lt (hp : p.Proper) (hs : s.Ready p) :
    (final (s.solve .unlimited)).stats.backtracks <
      s.stats.backtracks + treeSize s.pool.length := by
  obtain ⟨hstats, hbalanced⟩ := counted_solve hp hs .unlimited
  have hlength := (kept_solve hs.consistent .unlimited).suffix.length_le
  have hlt := hbalanced.backtracks_lt (completes_unlimited s) hlength
  have hnodes := nodes_solve_le s
  rw [hstats] at hnodes ⊢
  simp only [Stats.nodes_add, Stats.backtracks_add] at hnodes ⊢
  omega

/-- Every run that nothing stops ends, and its nodes, its backtracks and its frames are bounded by
the symbols that it has to choose from. The frames are most at the polls, as a turn adds one at its
end or has removed some before. -/
theorem solve_bounds (hp : p.Proper) (ht : s.trail.Reached p) (hpool : s.Pooled p) :
    let r := s.solve .unlimited
    let u := s.pool.length
    ((∃ solution s', r = .ok solution s') ∨
        s.trail.entries ≠ [] ∧ ¬ p.Solvable s.trail.entries ∧
          ∃ s', r = .error (.fault .trailNotEmpty) s') ∧
      (final r).stats.nodes ≤ s.stats.nodes + (2 ^ (u + 1) - 1) ∧
      (final r).stats.backtracks ≤ s.stats.backtracks + (2 ^ (u + 1) - 2) ∧
      ∀ n frames s', Polled .unlimited s n frames s' →
        n < 2 ^ (u + 1) - 1 ∧ frames.length ≤ u := by
  have hs : s.Ready p := ⟨ht.consistent, hpool⟩
  dsimp only
  rw [← treeSize_eq]
  refine ⟨?_, nodes_solve_le s, ?_, ?_⟩
  · obtain ⟨-, s', -, heq⟩ | ⟨hnone, s', -, -, heq⟩ := (completes_unlimited s).ended hp (.inl hs)
    · exact .inl ⟨_, s', heq⟩
    · by_cases hnil : s.trail.entries = []
      · rw [if_pos hnil] at heq
        exact .inl ⟨_, s', heq⟩
      · rw [if_neg hnil] at heq
        exact .inr ⟨hnil, hnone, s', heq⟩
  · have hlt := backtracks_solve_lt hp hs
    have hsize := treeSize_eq s.pool.length
    omega
  · intro n frames s' hpolled
    have hbudget := hpolled.budget_le
    have hpos := budget_pos s' frames
    have hlength := hpolled.length_eq
    omega

/-- Over the three symbols of the sample. -/
theorem solve_bounds_sample :
    Problem.sample.Proper ∧ (new Problem.sample.trail).Pooled Problem.sample ∧
      (final ((new Problem.sample.trail).solve .unlimited)).stats.nodes ≤ 15 ∧
      (final ((new Problem.sample.trail).solve .unlimited)).stats.backtracks ≤ 14 ∧
      ∀ n frames s', Polled .unlimited (new Problem.sample.trail) n frames s' →
        n < 15 ∧ frames.length ≤ 3 := by
  have hp : Problem.sample.Proper := by decide
  have hready : (new Problem.sample.trail).Ready Problem.sample := ready_new (.new _) rfl
  have h := solve_bounds hp .new hready.pooled
  have hsize : (new Problem.sample.trail).pool.length = 3 := rfl
  rw [hsize] at h
  obtain ⟨-, hnodes, hbacktracks, hpolled⟩ := h
  have hzero : (new Problem.sample.trail).stats = {} := rfl
  rw [hzero] at hnodes hbacktracks
  norm_num at hnodes hbacktracks hpolled
  exact ⟨hp, hready.pooled, hnodes, hbacktracks, hpolled⟩

end Search

end Dpll
