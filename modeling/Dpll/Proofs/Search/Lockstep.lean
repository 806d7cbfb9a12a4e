import Dpll.Proofs.Search.Resumption
import Dpll.Proofs.Search.Steadiness

/-!
Pool, trail and frames move together. Main statement: in a run from a pool of the symbols without a
value, before every node each frame stands for one entry and the pool lists the symbols that are
left. The end of the run keeps this, but for a success: then the symbols of the guesses of true that
were not turned are missing from the pool, and all others without a value at the start are back.
-/

namespace Dpll

namespace Search

/-- Operations on trails do not leave the trails of a problem. -/
lemma steady_reached (p : Problem) :
    Steady fun s s' => s.trail.Reached p → s'.trail.Reached p where
  refl _ := id
  trans h h' := h' ∘ h
  status s h := by
    have heq := h.consistent.status_eq
    simp only [onTrail, heq, final]
    exact .status h heq
  push i b s h := by
    obtain ⟨-, -, heq⟩ | ⟨-, heq⟩ | ⟨-, heq⟩ := s.trail.push_cases i b
    · simp only [onTrail, heq, final]
      exact .push h heq
    · simp only [onTrail, heq, final]
      exact h
    · simp only [onTrail, heq, final]
      exact h
  pop s h := by
    cases he : s.trail.entries with
    | nil =>
      simp only [onTrail, Trail.pop, he, final]
      exact h
    | cons e entries =>
      have heq := Trail.pop_eq he
      simp only [onTrail, heq, final]
      exact .pop h heq
  pool _ _ := id
  count _ _ := id
  record _ _ := id

lemma released_sublist (frames : List Frame) :
    (released frames).Sublist (frames.map (·.symbol)) := by
  induction frames with
  | nil => exact .slnil
  | cons frame frames ih =>
    cases frame with
    | tryTrue i => exact ih.cons i
    | forced i | tryFalse i => exact ih.cons_cons i

lemma mem_released_iff {frames : List Frame} (h : (frames.map (·.symbol)).Nodup) (i : Nat) :
    i ∈ released frames ↔ i ∈ frames.map (·.symbol) ∧ .tryTrue i ∉ frames := by
  induction frames with
  | nil => simp [released]
  | cons frame frames ih =>
    rw [List.map_cons, List.nodup_cons] at h
    have hrest := ih h.2
    have hsymbol : .tryTrue frame.symbol ∉ frames := by
      intro hmem
      exact h.1 (List.mem_map.mpr ⟨_, hmem, rfl⟩)
    cases frame with
    | tryTrue j =>
      by_cases hij : i = j
      · subst hij
        have hnot : i ∉ released frames := fun hmem => h.1 ((released_sublist frames).subset hmem)
        simp [released, hnot]
      · simp [released, hrest, hij, Frame.symbol]
    | forced j | tryFalse j =>
      by_cases hij : i = j
      · subst hij
        simpa [released, Frame.symbol] using hsymbol
      · simp [released, hrest, hij, Frame.symbol]

section Success

variable {p : Problem} {base : List Entry} {frames : List Frame} {s s' : Search}

/-- What is in the pool once the forced symbols and the turned guesses have come back to it. -/
lemma Exploring.success_pool (h : Exploring p base frames s) :
    (s.pool ++ released frames).Nodup ∧
      ∀ i, i ∈ s.pool ++ released frames ↔
        (i < p.ids.length ∧ i ∉ base.map (·.symbol)) ∧ .tryTrue i ∉ frames := by
  have hnodup := h.consistent.nodup
  have hentries : ∀ i, i ∈ s.trail.entries.map (·.symbol) ↔
      i ∈ frames.map (·.symbol) ∨ i ∈ base.map (·.symbol) := by
    intro i
    rw [h.stacked.symbols_eq, List.mem_append]
  rw [h.stacked.symbols_eq, List.nodup_append] at hnodup
  obtain ⟨hframes, -, hapart⟩ := hnodup
  have hlt : ∀ i ∈ frames.map (·.symbol), i < p.ids.length := by
    intro i hi
    obtain ⟨⟨j, b⟩, he, rfl⟩ := List.mem_map.mp ((hentries i).mpr (.inl hi))
    rw [← h.consistent.size_eq]
    exact h.consistent.lt_size he
  have hpool : ∀ i, i ∈ s.pool ↔
      i < p.ids.length ∧ i ∉ frames.map (·.symbol) ∧ i ∉ base.map (·.symbol) := by
    intro i
    rw [h.pooled.mem_iff, h.consistent.valueAt_eq_none_iff_not_mem, hentries, not_or]
  constructor
  · rw [List.nodup_append]
    refine ⟨h.pooled.nodup, (released_sublist frames).nodup hframes, ?_⟩
    rintro i hi j hj rfl
    exact ((hpool i).mp hi).2.1 ((released_sublist frames).subset hj)
  · intro i
    rw [List.mem_append, hpool, mem_released_iff hframes]
    by_cases hi : i ∈ frames.map (·.symbol)
    · have hbase : i ∉ base.map (·.symbol) := fun hmem => hapart i hi i hmem rfl
      simp [hi, hbase, hlt i hi]
    · have htrue : .tryTrue i ∉ frames := by
        intro hmem
        exact hi (List.mem_map.mpr ⟨_, hmem, rfl⟩)
      simp [hi, htrue]

lemma Underway.pool_of_advance_true (h : Underway p base frames s)
    (hadvance : Search.advance frames s = .ok (.decided true) s') :
    s'.pool = s.pool ++ released frames := by
  have hv := h.visit
  unfold Search.advance at hadvance
  generalize Search.visit s = r at hv hadvance
  match r, hv with
  | .error _ _, _ => cases hadvance
  | .ok (.descend _) _, _ => cases hadvance
  | .ok (.verdict true) _, ⟨rfl, _⟩ =>
    simp only [unwind_true] at hadvance
    cases hadvance
    rfl
  | .ok (.verdict false) _, ⟨rfl, _⟩ =>
    obtain ⟨_, heq, -⟩ | ⟨_, _, _, heq, -⟩ := unwind_false h.inspected
    · simp only [heq] at hadvance
      cases hadvance
    · simp only [heq] at hadvance
      cases hadvance

end Success

/-- The frames stand for the entries on top of those of the start, the pool lists the symbols
without a value, and values are those of the entries. Ids and literals are those of the start. -/
structure InStep (p : Problem) (start : Search) (frames : List Frame) (s : Search) : Prop where
  pooled : s.Pooled p
  stacked : Stacked start.trail.entries frames s.trail.entries
  value_iff : ∀ i b, s.trail.valuation.valueAt i = some b ↔ ⟨i, b⟩ ∈ s.trail.entries
  ids_eq : s.trail.valuation.ids = start.trail.valuation.ids
  literals_eq : s.trail.clauses.map (·.literals) = start.trail.clauses.map (·.literals)

section Run

variable {p : Problem} {s s' : Search} {schedule : Schedule} {n : Nat} {frames : List Frame}

theorem Polled.exploring (hp : p.Proper) (hs : s.Ready p) (h : Polled schedule s n frames s') :
    Exploring p s.trail.entries frames s' := by
  induction h with
  | start => exact hs.exploring
  | next _ hturn ih =>
    have hnext := (turn_eq_pending_iff.mp hturn).2
    obtain ⟨_, _, heq, hs₂⟩ | ⟨_, _, heq, -⟩ := ih.advance hp
    · rw [hnext] at heq
      cases heq
      exact hs₂
    · rw [hnext] at heq
      cases heq

lemma Exploring.inStep (hs : s.Ready p) (h : Exploring p s.trail.entries frames s') :
    InStep p s frames s' where
  pooled := h.pooled
  stacked := h.stacked
  value_iff := h.consistent.value_iff
  ids_eq := h.consistent.ids_eq.trans hs.consistent.ids_eq.symm
  literals_eq := h.consistent.literals_eq.trans hs.consistent.literals_eq.symm

/-- A run keeps pool, trail and frames in step before every node, and leaves them so unless it has
succeeded. The next run may then start in the same way. -/
theorem solve_in_step (hp : p.Proper) (ht : s.trail.Reached p) (hpool : s.Pooled p)
    (schedule : Schedule) :
    (∀ n frames s', Polled schedule s n frames s' → InStep p s frames s') ∧
      (∀ s', s.solve schedule = .ok .unsat s' → s'.trail.Reached p ∧ s'.Pooled p) ∧
      (∀ n s', s.solve schedule = .error (.interrupted n) s' →
        s'.trail.Reached p ∧ s'.Pooled p) ∧
      ∀ a s', s.solve schedule = .ok (.sat a) s' →
        ∃ n frames s₁, Polled schedule s n frames s₁ ∧
          turn (schedule n) frames s₁ = .ended (.ok (.sat a) s') ∧ s'.pool.Nodup ∧
          ∀ i, i ∈ s'.pool ↔
            (i < p.ids.length ∧ s.trail.valuation.valueAt i = none) ∧ .tryTrue i ∉ frames := by
  have hs : s.Ready p := ⟨ht.consistent, hpool⟩
  have hreached := (steady_reached p).solve (fun _ => id) schedule s ht
  obtain ⟨n, frames, s₁, hlast, hend⟩ := exists_last_poll schedule s
  have hexploring := hlast.exploring hp hs
  refine ⟨fun _ _ _ h => (h.exploring hp hs).inStep hs, ?_, ?_, ?_⟩
  · intro s' hsolve
    rw [hsolve] at hreached
    have hended := ended_solve hp hs schedule
    rw [hsolve] at hended
    cases hended with
    | unsat hready => exact ⟨hreached, hready.pooled⟩
  · intro m s' hsolve
    rw [hsolve] at hreached hend
    obtain ⟨event, rfl⟩ := turn_interrupted hend
    have hready : s₁.Ready p := ⟨hexploring.consistent, hexploring.pooled⟩
    exact ⟨hreached, (hready.record event).pooled⟩
  · intro a s' hsolve
    rw [hsolve] at hend
    refine ⟨n, frames, s₁, hlast, hend, ?_⟩
    obtain ⟨s₂, hadvance, rfl⟩ := turn_sat hend
    have hpool₂ : s₂.pool = s₁.pool ++ released frames :=
      hexploring.toUnderway.pool_of_advance_true hadvance
    simp only [record, hpool₂, hs.consistent.valueAt_eq_none_iff_not_mem]
    exact hexploring.success_pool

/-- The guess that 3 is true stands when the sample is solved, and the pool lacks its symbol. -/
theorem solve_in_step_sample :
    ∃ a s', (new Problem.sample.trail).solve .unlimited = .ok (.sat a) s' ∧ s'.pool = [1, 0] ∧
      ∃ n frames s₁, Polled .unlimited (new Problem.sample.trail) n frames s₁ ∧
        InStep Problem.sample (new Problem.sample.trail) frames s₁ ∧ .tryTrue 2 ∈ frames := by
  have hanswer : answer? ((new Problem.sample.trail).solve .unlimited) =
      some (.sat [(1, some false), (2, some false), (3, some true)]) := by
    rw [solve_eq, runFrom_eq]
    cbv
  have hpool : (final ((new Problem.sample.trail).solve .unlimited)).pool = [1, 0] := by
    rw [solve_eq, runFrom_eq]
    cbv
  obtain ⟨s', hsolve⟩ := eq_ok_of_answer? hanswer
  rw [hsolve] at hpool
  have hready : (new Problem.sample.trail).Ready Problem.sample := ready_new (.new _) rfl
  have h := solve_in_step (by decide) .new hready.pooled .unlimited
  obtain ⟨n, frames, s₁, hs₁, -, -, hmem⟩ := h.2.2.2 _ s' hsolve
  have hfree : (new Problem.sample.trail).trail.valuation.valueAt 2 = none :=
    Valuation.valueAt_ofIds _ _
  have hguess : .tryTrue 2 ∈ frames := by
    by_contra hnot
    have hin : 2 ∈ s'.pool := (hmem 2).mpr ⟨⟨by decide, hfree⟩, hnot⟩
    simp [show s'.pool = [1, 0] from hpool] at hin
  exact ⟨_, s', hsolve, hpool, n, frames, s₁, hs₁, h.1 n frames s₁ hs₁, hguess⟩

end Run

end Search

end Dpll
