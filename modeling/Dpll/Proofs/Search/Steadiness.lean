import Dpll.Proofs.Search.Polls

/-!
What holds across every piece of a step holds across the step. A relation between the states before
and after an action is steady if the operations on the trail, on the pool, on the counts and on the
log respect it, where it need not respect the beginning of a visit. Main statement: it then holds
across a turn, from its visit on, whatever the turn comes to, and if it respects the beginning of a
visit too it holds across a whole run. Nothing is asked of the trail or the pool.
-/

namespace Dpll

def Event.isVisit : Event → Bool
  | visit .. => true
  | _ => false

namespace Search

structure Steady (R : Search → Search → Prop) : Prop where
  refl (s : Search) : R s s
  trans {s₁ s₂ s₃ : Search} : R s₁ s₂ → R s₂ s₃ → R s₁ s₃
  status (s : Search) : R s (final (onTrail Trail.status s))
  push (i : Nat) (b : Bool) (s : Search) : R s (final (onTrail (Trail.push i b) s))
  pop (s : Search) : R s (final (onTrail Trail.pop s))
  pool (pool : List Nat) (s : Search) : R s { s with pool }
  count {f : Stats → Stats} (hf : ∀ stats, (f stats).nodes = stats.nodes) (s : Search) :
    R s (s.count f)
  record {event : Event} (he : event.isVisit = false) (s : Search) : R s (s.record event)

namespace Steady

variable {R : Search → Search → Prop}

lemma assign (h : Steady R) (frame : Frame) (b : Bool) (s : Search) :
    R s (final (assign frame b s)) := by
  have hpush := h.push frame.symbol b s
  unfold Search.assign
  cases heq : onTrail (Trail.push frame.symbol b) s with
  | ok _ s' | error _ s' =>
    rw [heq] at hpush
    exact hpush

lemma force (h : Steady R) (l : Literal) (reason : Reason) (s : Search) :
    R s (final (force l reason s)) := by
  have hcount : R s (s.count (.countDecision reason)) := by
    apply h.count
    intro stats
    cases reason <;> rfl
  unfold Search.force
  by_cases hmem : l.symbol ∈ s.pool
  · rw [if_pos hmem]
    have htake := h.trans hcount (h.pool (s.pool.erase l.symbol) _)
    exact h.trans htake (h.trans (h.record rfl _) (h.assign _ _ _))
  · rw [if_neg hmem]
    exact hcount

lemma branch (h : Steady R) (s : Search) : R s (final (branch s)) := by
  unfold Search.branch
  cases s.pool with
  | nil =>
    dsimp only
    by_cases hclauses : s.trail.clauses.isEmpty = true
    · rw [if_pos hclauses]
      exact h.refl s
    · rw [if_neg hclauses]
      exact h.refl s
  | cons i pool =>
    have htake := h.trans (h.pool (s.pool.erase i) s) (h.count (f := .countBranch) (fun _ => rfl) _)
    exact h.trans htake (h.trans (h.record rfl _) (h.assign _ _ _))

lemma visit (h : Steady R) (s : Search) : R s.enter (final (visit s)) := by
  have hstatus := h.status s.enter
  unfold Search.visit
  cases heq : onTrail Trail.status s.enter with
  | error fault s' =>
    rw [heq] at hstatus
    exact hstatus
  | ok status s' =>
    rw [heq] at hstatus
    cases status with
    | some b => exact hstatus
    | none =>
      dsimp only
      cases s'.trail.openClauses with
      | error fault => exact hstatus
      | ok clauses =>
        dsimp only
        cases Decision.choose s'.trail.valuation.size s'.pool clauses with
        | force l reason => exact h.trans hstatus (h.force l reason s')
        | branch => exact h.trans hstatus (h.branch s')

lemma backtrack (h : Steady R) (s : Search) : R s (final (backtrack s)) := by
  have hpop := h.pop s
  unfold Search.backtrack
  cases heq : onTrail Trail.pop s with
  | error fault s' =>
    rw [heq] at hpop
    exact hpop
  | ok i s' =>
    rw [heq] at hpop
    exact h.trans hpop (h.trans (h.count (f := .countBacktrack) (fun _ => rfl) _) (h.record rfl _))

lemma retry (h : Steady R) (i : Nat) (s : Search) : R s (final (retry i s)) := by
  have hback := h.backtrack s
  unfold Search.retry
  cases heq : Search.backtrack s with
  | error fault s' =>
    rw [heq] at hback
    exact hback
  | ok _ s' =>
    rw [heq] at hback
    exact h.trans hback (h.trans (h.record rfl _) (h.push i false _))

lemma unwind (h : Steady R) (b : Bool) (frames : List Frame) (s : Search) :
    R s (final (unwind b frames s)) := by
  induction frames generalizing s with
  | nil => exact h.refl s
  | cons frame frames ih =>
    cases b with
    | true =>
      cases frame with
      | tryTrue i => exact ih s
      | forced i | tryFalse i => exact h.trans (h.pool _ s) (ih _)
    | false =>
      cases frame with
      | tryTrue i =>
        have hretry := h.retry i s
        simp only [Search.unwind, Bool.false_eq_true, if_false]
        cases heq : Search.retry i s with
        | ok _ s' | error _ s' =>
          rw [heq] at hretry
          exact hretry
      | forced i | tryFalse i =>
        have hback := h.trans (h.pool (s.pool ++ [i]) s) (h.backtrack (s.release i))
        simp only [Search.unwind, Bool.false_eq_true, if_false]
        cases heq : Search.backtrack (s.release i) with
        | error fault s' =>
          rw [heq] at hback
          exact hback
        | ok _ s' =>
          rw [heq] at hback
          exact h.trans hback (ih s')

lemma advance (h : Steady R) (frames : List Frame) (s : Search) :
    R s.enter (final (advance frames s)) := by
  have hvisit := h.visit s
  unfold Search.advance
  cases heq : Search.visit s with
  | error fault s₁ =>
    rw [heq] at hvisit
    exact hvisit
  | ok outcome s₁ =>
    rw [heq] at hvisit
    cases outcome with
    | descend frame => exact hvisit
    | verdict b =>
      have hunwind := h.unwind b frames s₁
      dsimp only
      cases heq : Search.unwind b frames s₁ with
      | error fault s₂ =>
        rw [heq] at hunwind
        exact h.trans hvisit hunwind
      | ok frames' s₂ =>
        rw [heq] at hunwind
        cases frames' <;> exact h.trans hvisit hunwind

lemma finish (h : Steady R) (b : Bool) (s : Search) : R s (final (finish b s)) := by
  rw [final_finish]
  exact h.record rfl s

theorem turn (h : Steady R) {poll : Poll} (hstop : ¬ poll.stops = true) (frames : List Frame)
    (s : Search) : R s.enter (turn poll frames s).final := by
  have hadvance := h.advance frames s
  rw [turn_of_not_stops hstop]
  cases heq : Search.advance frames s with
  | error fault s' =>
    rw [heq] at hadvance
    exact hadvance
  | ok progress s' =>
    rw [heq] at hadvance
    cases progress with
    | pending frames' => exact hadvance
    | decided b => exact h.trans hadvance (h.finish b s')

section Run

variable (h : Steady R) (henter : ∀ s, R s s.enter)

include h henter

lemma whole_turn (poll : Poll) (frames : List Frame) (s : Search) :
    R s (Search.turn poll frames s).final := by
  by_cases hstop : poll.stops = true
  · rw [turn_of_stops hstop]
    exact h.record rfl s
  · exact h.trans (henter s) (h.turn hstop frames s)

lemma polled {schedule : Schedule} {s s' : Search} {n : Nat} {frames : List Frame}
    (hs : Polled schedule s n frames s') : R { s with log := [] } s' := by
  induction hs with
  | start => exact h.refl _
  | @next n frames _ s₁ _ _ hturn ih =>
    have hwhole := h.whole_turn henter (schedule n) frames s₁
    rw [hturn] at hwhole
    exact h.trans ih hwhole

theorem solve (schedule : Schedule) (s : Search) :
    R { s with log := [] } (final (s.solve schedule)) := by
  obtain ⟨n, frames, s', hs', hend⟩ := exists_last_poll schedule s
  have hwhole := h.whole_turn henter (schedule n) frames s'
  rw [hend] at hwhole
  exact h.trans (h.polled henter hs') hwhole

end Run

end Steady

end Search

end Dpll
