import Dpll.Search.Basic

/-!
Why every search ends. The tree over a pool of symbols is a node and, below it, two trees over one
symbol less. The budget of a search is the tree over its pool, together with the tree that waits
behind each guess of true, for the pool as it will be when that guess has failed. Main statement:
every step that leaves the search pending lowers its budget.
-/

namespace Dpll.Search

/-- The most nodes that a search over `n` symbols can visit. -/
def treeSize : Nat → Nat
  | 0 => 1
  | n + 1 => 1 + 2 * treeSize n

/-- The most nodes that the alternatives in these frames can add, with so many symbols in the
pool. -/
def alternatives : Nat → List Frame → Nat
  | _, [] => 0
  | n, .tryTrue _ :: frames => treeSize n + alternatives (n + 1) frames
  | n, _ :: frames => alternatives (n + 1) frames

def budget (s : Search) (frames : List Frame) : Nat :=
  treeSize s.pool.length + alternatives s.pool.length frames

theorem treeSize_pos (n : Nat) : 0 < treeSize n := by
  cases n <;> simp only [treeSize] <;> omega

theorem pool_onTrail {α : Type} {act : EStateM Fault Trail α} {a : α} {s s' : Search}
    (h : onTrail act s = .ok a s') : s'.pool = s.pool := by
  unfold onTrail at h
  split at h
  · cases h
    rfl
  · cases h

theorem assign_ok {frame : Frame} {value : Bool} {outcome : Outcome} {s s' : Search}
    (h : assign frame value s = .ok outcome s') :
    outcome = .descend frame ∧ s'.pool = s.pool := by
  unfold assign at h
  split at h
  · cases h
  next h' =>
    cases h
    exact ⟨rfl, pool_onTrail h'⟩

theorem force_ok {l : Literal} {reason : Reason} {outcome : Outcome} {s s' : Search}
    (h : force l reason s = .ok outcome s') :
    outcome = .descend (.forced l.symbol) ∧ s'.pool.length + 1 = s.pool.length := by
  unfold force at h
  split at h
  next hmem =>
    obtain ⟨rfl, hpool⟩ := assign_ok h
    have := List.length_pos_of_mem hmem
    refine ⟨rfl, ?_⟩
    simp only [hpool, record, take, count, List.length_erase_of_mem hmem]
    omega
  · cases h

theorem branch_ok {outcome : Outcome} {s s' : Search} (h : branch s = .ok outcome s') :
    (outcome = .verdict true ∧ s' = s) ∨
      ∃ symbol, outcome = .descend (.tryTrue symbol) ∧ s'.pool.length + 1 = s.pool.length := by
  unfold branch at h
  split at h
  · split at h
    · cases h
      exact .inl ⟨rfl, rfl⟩
    · cases h
  next symbol pool hpool =>
    obtain ⟨rfl, hs'⟩ := assign_ok h
    exact .inr ⟨symbol, rfl, by simp [hs', hpool, record, take, count]⟩

/-- A visit either leaves the pool alone or takes a symbol out. -/
theorem visit_ok {outcome : Outcome} {s s' : Search} (h : visit s = .ok outcome s') :
    (∃ satisfiable, outcome = .verdict satisfiable ∧ s'.pool = s.pool) ∨
      ∃ frame, outcome = .descend frame ∧ s'.pool.length + 1 = s.pool.length := by
  unfold visit at h
  split at h
  · cases h
  next h' =>
    cases h
    exact .inl ⟨_, rfl, (pool_onTrail h').trans rfl⟩
  next h' =>
    have hpool := (pool_onTrail h').trans (b := s.enter.pool) (c := s.pool) rfl
    split at h
    · cases h
    · split at h
      · obtain ⟨rfl, hlength⟩ := force_ok h
        exact .inr ⟨_, rfl, by rw [hlength, hpool]⟩
      · obtain ⟨rfl, rfl⟩ | ⟨symbol, rfl, hlength⟩ := branch_ok h
        · exact .inl ⟨_, rfl, hpool⟩
        · exact .inr ⟨_, rfl, by rw [hlength, hpool]⟩

theorem pool_visit {satisfiable : Bool} {s s' : Search}
    (h : visit s = .ok (.verdict satisfiable) s') : s'.pool = s.pool := by
  obtain ⟨_, -, hpool⟩ | ⟨_, hd, -⟩ := visit_ok h
  · exact hpool
  · cases hd

theorem length_visit {frame : Frame} {s s' : Search} (h : visit s = .ok (.descend frame) s') :
    s'.pool.length + 1 = s.pool.length := by
  obtain ⟨_, hv, -⟩ | ⟨_, -, hlength⟩ := visit_ok h
  · cases hv
  · exact hlength

/-- The symbol that is taken out leaves room for its frame. -/
theorem budget_descend {s s' : Search} (h : s'.pool.length + 1 = s.pool.length) (frame : Frame)
    (frames : List Frame) : budget s' (frame :: frames) < budget s frames := by
  cases frame <;> simp only [budget, alternatives, treeSize, ← h] <;> omega

theorem pool_backtrack {s s' : Search} (h : backtrack s = .ok () s') : s'.pool = s.pool := by
  unfold backtrack at h
  split at h
  · cases h
  next h' =>
    cases h
    exact (pool_onTrail h' :)

theorem pool_retry {symbol : Nat} {s s' : Search} (h : retry symbol s = .ok () s') :
    s'.pool = s.pool := by
  unfold retry at h
  split at h
  · cases h
  next h' => exact (pool_onTrail h).trans (pool_backtrack h' :)

theorem unwind_true_ne {frames frames' : List Frame} {s s' : Search} :
    unwind true frames s ≠ .ok (some frames') s' := by
  induction frames generalizing s with
  | nil => simp [unwind]
  | cons frame frames ih => cases frame <;> simp [unwind, ih]

/-- Going back uses up the alternatives: what they allowed is the whole budget afterwards. -/
theorem budget_unwind {frames frames' : List Frame} {s s' : Search}
    (h : unwind false frames s = .ok (some frames') s') :
    budget s' frames' = alternatives s.pool.length frames := by
  induction frames generalizing s with
  | nil => cases h
  | cons frame frames ih =>
    cases frame with
    | tryTrue symbol =>
      simp only [unwind, Bool.false_eq_true, if_false] at h
      split at h
      · cases h
      next h' =>
        cases h
        simp [budget, alternatives, pool_retry h']
    | forced symbol | tryFalse symbol =>
      simp only [unwind, Bool.false_eq_true, if_false] at h
      split at h
      · cases h
      next h' =>
        rw [ih h, pool_backtrack h']
        simp [release, alternatives]

theorem budget_advance {frames frames' : List Frame} {s s' : Search}
    (h : advance frames s = .ok (.pending frames') s') : budget s' frames' < budget s frames := by
  unfold advance at h
  split at h
  · cases h
  next h' =>
    cases h
    exact budget_descend (length_visit h') _ frames
  next satisfiable s₁ h' =>
    split at h
    · cases h
    · cases h
    next hu =>
      cases h
      cases satisfiable with
      | true => exact absurd hu unwind_true_ne
      | false =>
        rw [budget_unwind hu, pool_visit h']
        have := treeSize_pos s.pool.length
        simp only [budget]
        omega

end Dpll.Search
