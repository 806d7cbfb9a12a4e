import Dpll.Search.Solve
import Dpll.Proofs.Search.Invariant

/-!
What a step and a whole run come to. A run either goes on to its end or is cut short between two
nodes, and a fact that every turn keeps holds where the run stops. Main statement: a run over a
proper problem, however it is scheduled, leaves a search that is ready to go on, one that has
found a solution, or the entries with which it began, which then have none.
-/

namespace Dpll

namespace Search

/-- What the end of a search says of the entries with which it began. -/
def Concluded (p : Problem) (base : List Entry) : Bool → Search → Prop
  | true, s => s.Solved p ∧ base <:+ s.trail.entries
  | false, s => s.Ready p ∧ s.trail.entries = base ∧ ¬ p.Solvable base

section Advance

variable {p : Problem} {base : List Entry} {frames : List Frame} {s : Search}

lemma Underway.inspected (h : Underway p base frames s) : Underway p base frames s.inspected :=
  ⟨consistent_inspected h.consistent, by simpa using h.stacked⟩

lemma Underway.solved (h : Underway p base frames s) (hj : s.Judged true) :
    Solved p { s.inspected with pool := s.pool ++ released frames } where
  consistent := consistent_inspected h.consistent
  freshness := by
    rw [← hj.standing_eq]
    exact h.consistent.freshness_settle
  root := by
    intro hnil
    rw [entries_inspected] at hnil
    obtain ⟨-, hpool, hclauses⟩ := hj.root hnil
    have hstacked := h.stacked
    rw [hnil] at hstacked
    cases hstacked with
    | nil => exact ⟨by simp [hpool, released], Trail.clauses_settle_eq_nil.mpr hclauses⟩

theorem Underway.advance (h : Underway p base frames s) :
    match advance frames s with
    | .error _ s' => s'.trail.Consistent p ∧ base <:+ s'.trail.entries
    | .ok (.pending frames') s' => Underway p base frames' s'
    | .ok (.decided true) s' => s'.Solved p ∧ base <:+ s'.trail.entries
    | .ok (.decided false) s' => s'.trail.Consistent p ∧ s'.trail.entries = base := by
  have hv := h.visit
  unfold Search.advance
  generalize Search.visit s = r at hv
  match r, hv with
  | .error _ s', hv => exact ⟨hv.1, hv.2 ▸ h.stacked.suffix⟩
  | .ok (.descend frame) s', hv => exact hv
  | .ok (.verdict true) _, ⟨rfl, hj⟩ =>
    simp only [unwind_true]
    refine ⟨h.solved hj, ?_⟩
    simpa using h.stacked.suffix
  | .ok (.verdict false) _, ⟨rfl, _⟩ =>
    obtain ⟨s', heq, hcons, hbase, -⟩ | ⟨i, frames', s', heq, hs', -⟩ := unwind_false h.inspected
    · simp only [heq]
      exact ⟨hcons, hbase⟩
    · simp only [heq]
      exact hs'

lemma not_solvable_of_judged (h : s.trail.Consistent p) (hj : s.Judged false) :
    ¬ p.Solvable s.trail.entries := by
  rintro ⟨σ, hσ, hm⟩
  rw [h.agrees_iff] at hσ
  rw [← h.isModel_iff] at hm
  exact hσ.not_forall_holds hj.standing_eq hm

/-- A step misses no solution and does not fail. -/
theorem Exploring.advance (hp : p.Proper) (h : Exploring p base frames s) :
    (∃ frames' s', advance frames s = .ok (.pending frames') s' ∧ Exploring p base frames' s') ∨
      ∃ b s', advance frames s = .ok (.decided b) s' ∧ Concluded p base b s' := by
  unfold Search.advance
  obtain ⟨b, heq, hj⟩ | ⟨frame, s', heq, hs'⟩ := h.visit hp
  · simp only [heq]
    cases b with
    | true =>
      simp only [unwind_true]
      refine .inr ⟨true, _, rfl, h.toUnderway.solved hj, ?_⟩
      simpa using h.stacked.suffix
    | false =>
      have hnone := not_solvable_of_judged h.consistent hj
      have hpooled : s.inspected.Pooled p := h.pooled.congr rfl (by simp)
      have hu := unwind_false h.toUnderway.inspected
      rw [entries_inspected] at hu
      obtain ⟨s', heq, hcons, hbase, hpool, halt⟩ | ⟨i, frames', s', heq, hs', hpool, halt⟩ := hu
      · simp only [heq]
        refine .inr ⟨false, s', rfl, ⟨hcons, hpool hpooled⟩, hbase, ?_⟩
        intro hb
        obtain hs | ha := h.covered hb
        · exact hnone hs
        · exact halt ha
      · simp only [heq]
        refine .inl ⟨_, s', rfl, hs', hpool hpooled, ?_⟩
        intro hb
        obtain hs | ha := h.covered hb
        · exact absurd hs hnone
        · exact halt ha
  · simp only [heq]
    exact .inl ⟨_, s', rfl, hs'⟩

end Advance

/-- The rest of a run, with so many nodes of it done. -/
def runFrom (schedule : Schedule) (visited : Nat) (frames : List Frame) (s : Search) :
    EStateM.Result Stop Search Solution :=
  Id.run (run (fun n => pure (schedule n)) visited frames s)

lemma runFrom_eq (schedule : Schedule) (visited : Nat) (frames : List Frame) (s : Search) :
    runFrom schedule visited frames s =
      match turn (schedule visited) frames s with
      | .ended result => result
      | .pending frames s => runFrom schedule (visited + 1) frames s := by
  rw [runFrom, run]
  simp only [Id.run, bind, pure]
  split
  next heq => rw [heq]
  next heq =>
    rw [heq]
    rfl

lemma solve_eq (schedule : Schedule) (s : Search) :
    s.solve schedule = runFrom schedule 0 [] { s with log := [] } := rfl

lemma turn_of_stops {poll : Poll} (hstop : poll.stops = true) (frames : List Frame)
    (s : Search) :
    turn poll frames s = .ended (.error (.interrupted s.stats.nodes)
      (s.record (.interrupted s.stats.nodes poll.cancelled poll.expired))) :=
  if_pos hstop

lemma turn_of_not_stops {poll : Poll} (hstop : ¬ poll.stops = true) (frames : List Frame)
    (s : Search) :
    turn poll frames s =
      match advance frames s with
      | .error fault s => .ended (.error (.fault fault) s)
      | .ok (.decided satisfiable) s => .ended (finish satisfiable s)
      | .ok (.pending frames) s => .pending frames s :=
  if_neg hstop

/-- What every turn keeps holds where the run stops. -/
theorem run_induction {P : List Frame → Search → Prop}
    {Q : EStateM.Result Stop Search Solution → Prop} (schedule : Schedule)
    (hturn : ∀ visited frames s, P frames s → match turn (schedule visited) frames s with
      | .ended result => Q result
      | .pending frames s => P frames s)
    (visited : Nat) (frames : List Frame) (s : Search) (h : P frames s) :
    Q (runFrom schedule visited frames s) := by
  -- The budget falls with every turn that leaves something to do.
  induction hb : budget s frames using Nat.strongRecOn generalizing visited frames s with
  | ind n ih =>
    have ht := hturn visited frames s h
    rw [runFrom_eq]
    match heq : turn (schedule visited) frames s with
    | .ended result =>
      rw [heq] at ht
      exact ht
    | .pending frames' s' =>
      rw [heq] at ht
      have hlt := budget_turn heq
      exact ih _ (hb ▸ hlt) (visited + 1) frames' s' ht rfl

/-- What every step keeps holds where the run is cut short or comes to its end. -/
theorem advance_induction {P : List Frame → Search → Prop}
    {Q : EStateM.Result Stop Search Solution → Prop} (schedule : Schedule)
    (hstopped : ∀ n frames s, P frames s → (schedule n).stops = true →
      Q (.error (.interrupted s.stats.nodes)
        (s.record (.interrupted s.stats.nodes (schedule n).cancelled (schedule n).expired))))
    (hadvance : ∀ frames s, P frames s → match advance frames s with
      | .error fault s => Q (.error (.fault fault) s)
      | .ok (.decided satisfiable) s => Q (finish satisfiable s)
      | .ok (.pending frames) s => P frames s)
    (frames : List Frame) (s : Search) (h : P frames s) : Q (runFrom schedule 0 frames s) := by
  refine run_induction schedule ?_ 0 frames s h
  intro n frames₁ s₁ h₁
  by_cases hstop : (schedule n).stops = true
  · rw [turn_of_stops hstop]
    exact hstopped n frames₁ s₁ h₁ hstop
  · rw [turn_of_not_stops hstop]
    have hstep := hadvance frames₁ s₁ h₁
    match advance frames₁ s₁, hstep with
    | .error _ _, hstep | .ok (.decided _) _, hstep | .ok (.pending _) _, hstep => exact hstep

lemma finish_true (s : Search) :
    finish true s =
      .ok (.ofValuation s.trail.valuation) (s.record (.finished true s.stats)) := rfl

lemma finish_false_of_nil {s : Search} (h : s.trail.entries = []) :
    finish false s = .ok .unsat (s.record (.finished false s.stats)) := by
  simp [finish, record, Trail.isEmpty, h]

lemma finish_false_of_ne_nil {s : Search} (h : s.trail.entries ≠ []) :
    finish false s = .error (.fault .trailNotEmpty) (s.record (.finished false s.stats)) := by
  simp [finish, record, Trail.isEmpty, h]

lemma finish_ne_interrupted (b : Bool) (s : Search) (n : Nat) (s' : Search) :
    finish b s ≠ .error (.interrupted n) s' := by
  cases b with
  | true => simp [finish_true]
  | false =>
    by_cases hnil : s.trail.entries = []
    · simp [finish_false_of_nil hnil]
    · simp [finish_false_of_ne_nil hnil]

lemma finish_eq_sat {b : Bool} {s s' : Search} {a : List (Nat × Option Bool)}
    (h : finish b s = .ok (.sat a) s') : b = true ∧ s' = s.record (.finished true s.stats) := by
  cases b with
  | true =>
    cases h
    exact ⟨rfl, rfl⟩
  | false =>
    by_cases hnil : s.trail.entries = []
    · rw [finish_false_of_nil hnil] at h
      cases h
    · rw [finish_false_of_ne_nil hnil] at h
      cases h

/-- A search that can be run again, to go on or to find its solution once more. -/
def Resumable (p : Problem) (s : Search) : Prop :=
  s.Ready p ∨ s.Solved p

/-- The ways in which a run can end that started with these entries. -/
inductive Ended (p : Problem) (base : List Entry) (schedule : Schedule) :
    EStateM.Result Stop Search Solution → Prop
  | interrupted {visited n : Nat} {s : Search} (hstop : (schedule visited).stops = true)
      (hs : s.Resumable p) (hbase : base <:+ s.trail.entries) :
      Ended p base schedule (.error (.interrupted n) s)
  | solved {s : Search} (hs : s.Solved p) (hbase : base <:+ s.trail.entries) :
      Ended p base schedule (.ok (.ofValuation s.trail.valuation) s)
  | unsat {s : Search} (hs : s.Ready p) (hbase : s.trail.entries = base) (hnil : base = [])
      (hnone : ¬ p.Solvable base) : Ended p base schedule (.ok .unsat s)
  | notEmpty {s : Search} (hs : s.Ready p) (hbase : s.trail.entries = base) (hne : base ≠ [])
      (hnone : ¬ p.Solvable base) : Ended p base schedule (.error (.fault .trailNotEmpty) s)

/-- What a run keeps over a pool that need not fit. -/
inductive Kept (p : Problem) (base : List Entry) : EStateM.Result Stop Search Solution → Prop
  | sat {s : Search} (hs : s.trail.Consistent p) (hbase : base <:+ s.trail.entries)
      (htrue : s.trail.standing = some true) : Kept p base (.ok (.ofValuation s.trail.valuation) s)
  | unsat {s : Search} (hs : s.trail.Consistent p) (hbase : base <:+ s.trail.entries) :
      Kept p base (.ok .unsat s)
  | stopped {stop : Stop} {s : Search} (hs : s.trail.Consistent p)
      (hbase : base <:+ s.trail.entries) : Kept p base (.error stop s)

section Run

variable {p : Problem} {base : List Entry} {s : Search}

lemma Ready.exploring (h : s.Ready p) :
    Exploring p s.trail.entries [] { s with log := [] } where
  consistent := h.consistent
  stacked := .nil
  pooled := ⟨h.pooled.nodup, h.pooled.mem_iff⟩
  covered := .inl

lemma Ready.record (h : s.Ready p) (event : Event) : (s.record event).Ready p :=
  ⟨h.consistent, ⟨h.pooled.nodup, h.pooled.mem_iff⟩⟩

lemma Solved.record (h : s.Solved p) (event : Event) : (s.record event).Solved p :=
  ⟨h.consistent, h.freshness, h.root⟩

lemma Solved.standing_eq (h : s.Solved p) : s.trail.standing = some true :=
  (h.consistent.swept _ h.freshness).symm

lemma ended_finish {schedule : Schedule} {b : Bool} (h : Concluded p base b s) :
    Ended p base schedule (finish b s) := by
  match b, h with
  | true, ⟨hs, hbase⟩ =>
    rw [finish_true]
    exact .solved (hs.record _) hbase
  | false, ⟨hs, hbase, hnone⟩ =>
    by_cases hnil : s.trail.entries = []
    · rw [finish_false_of_nil hnil]
      exact .unsat (hs.record _) hbase (hbase ▸ hnil) hnone
    · rw [finish_false_of_ne_nil hnil]
      exact .notEmpty (hs.record _) hbase (hbase ▸ hnil) hnone

/-- A run from a search that is ready is cut short there or comes to the right end. -/
theorem ended_solve (hp : p.Proper) (h : s.Ready p) (schedule : Schedule) :
    Ended p s.trail.entries schedule (s.solve schedule) := by
  rw [solve_eq]
  refine advance_induction (P := Exploring p s.trail.entries) schedule ?_ ?_ [] _ h.exploring
  · intro n frames s₁ h₁ hstop
    have hready : s₁.Ready p := ⟨h₁.consistent, h₁.pooled⟩
    exact .interrupted hstop (.inl (hready.record _)) h₁.stacked.suffix
  · intro frames s₁ h₁
    obtain ⟨frames', s', heq, hs'⟩ | ⟨b, s', heq, hs'⟩ := h₁.advance hp
    · rw [heq]
      exact hs'
    · rw [heq]
      exact ended_finish hs'

/-- Whatever the pool holds, a run keeps the entries with which it began, and a solution leaves
only true clauses. -/
theorem kept_solve (h : s.trail.Consistent p) (schedule : Schedule) :
    Kept p s.trail.entries (s.solve schedule) := by
  rw [solve_eq]
  refine advance_induction (P := Underway p s.trail.entries) schedule ?_ ?_ [] _ ⟨h, .nil⟩
  · intro n frames s₁ h₁ _
    exact .stopped h₁.consistent h₁.stacked.suffix
  · intro frames s₁ h₁
    have hadvance := h₁.advance
    generalize advance frames s₁ = r at hadvance
    match r, hadvance with
    | .error _ s', ⟨hs, hbase⟩ => exact .stopped hs hbase
    | .ok (.pending frames') s', hs => exact hs
    | .ok (.decided true) s', ⟨hs, hbase⟩ => exact .sat hs.consistent hbase hs.standing_eq
    | .ok (.decided false) s', ⟨hs, hbase⟩ =>
      have hsuffix : s.trail.entries <:+ s'.trail.entries := hbase ▸ List.suffix_rfl
      change Kept p s.trail.entries (finish false s')
      by_cases hnil : s'.trail.entries = []
      · rw [finish_false_of_nil hnil]
        exact .unsat hs hsuffix
      · rw [finish_false_of_ne_nil hnil]
        exact .stopped hs hsuffix

end Run

end Search

end Dpll
