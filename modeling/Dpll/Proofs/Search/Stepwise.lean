import Dpll.Proofs.Search.Run

/-!
Facts that a run passes on from one operation to the next. Such a fact has two forms, one before a
node and one at a node that has been looked at, and it has to be shown for the six things that a
search can do there: look at the node, force, guess, give up, turn a guess, and reorder the pool.
Main statement: it then holds wherever the run ends.
-/

namespace Dpll

namespace Search

/-- `P` holds before a node and `Q` once it has been looked at, and the operations of a search
lead from the one to the other. -/
structure Stepwise (p : Problem) (base : List Entry) (P Q : List Frame → Search → Prop) : Prop where
  inspect {frames : List Frame} {s : Search} :
    Underway p base frames s → P frames s → Q frames s.inspected
  force {l : Literal} (reason : Reason) {frames : List Frame} {s : Search} :
    Underway p base frames s → l.symbol < s.trail.valuation.size →
      s.trail.valuation.valueAt l.symbol = none → Q frames s →
        P (.forced l.symbol :: frames) (s.forced l reason)
  guess {i : Nat} {frames : List Frame} {s : Search} :
    Underway p base frames s → i < s.trail.valuation.size →
      s.trail.valuation.valueAt i = none → Q frames s → P (.tryTrue i :: frames) (s.guessed i)
  giveUp {frame : Frame} {frames : List Frame} {s : Search} :
    frame.isGuess = false → Underway p base (frame :: frames) s → Q (frame :: frames) s →
      Q frames ((s.release frame.symbol).undone frame.symbol)
  turn {i : Nat} {frames : List Frame} {s : Search} :
    Underway p base (.tryTrue i :: frames) s → Q (.tryTrue i :: frames) s →
      P (.tryFalse i :: frames) (s.retried i)
  pool (pool : List Nat) {frames : List Frame} {s : Search} : Q frames s → Q frames { s with pool }

/-- The ways in which a run can end, by what holds there. -/
inductive Closed (base : List Entry) (P Q : List Frame → Search → Prop) :
    EStateM.Result Stop Search Solution → Prop
  | interrupted {frames : List Frame} {s : Search} (cancelled expired : Bool) (hs : P frames s) :
      Closed base P Q (.error (.interrupted s.stats.nodes)
        (s.record (.interrupted s.stats.nodes cancelled expired)))
  | solved {frames : List Frame} {s : Search} (hs : Q frames s) : Closed base P Q (finish true s)
  | failed {s : Search} (hs : Q [] s) (hbase : s.trail.entries = base) :
      Closed base P Q (finish false s)

namespace Stepwise

variable {p : Problem} {base : List Entry} {P Q : List Frame → Search → Prop}
  {frames : List Frame} {s : Search}

lemma visit (h : Stepwise p base P Q) (hu : Underway p base frames s) (hP : P frames s) :
    match visit s with
    | .error _ _ => True
    | .ok (.descend frame) s' => P (frame :: frames) s'
    | .ok (.verdict _) s' => s' = s.inspected ∧ Q frames s' := by
  have hQ := h.inspect hu hP
  have hv := visited_visit hu.consistent
  generalize Search.visit s = r at hv
  cases hv with
  | falseAtRoot | notInPool | clausesRemain | alreadyAssigned | outOfRange => trivial
  | verdict | vacuous => exact ⟨rfl, hQ⟩
  | @forced l reason hopen hc hmem =>
    obtain ⟨⟨hlt, hnone⟩, -⟩ :=
      hu.consistent.settle.choose_force (hu.consistent.upToDate_settle hopen.1) hc
    rw [← hu.consistent.settle.size_eq] at hlt
    exact h.force reason hu.inspected hlt hnone hQ
  | @guessed i pool hopen hpool hlt hnone =>
    rw [← valuation_inspected] at hlt hnone
    exact h.guess hu.inspected hlt hnone hQ

theorem advance (h : Stepwise p base P Q) (hu : Underway p base frames s) (hP : P frames s) :
    match advance frames s with
    | .error _ _ => True
    | .ok (.pending frames') s' => P frames' s'
    | .ok (.decided true) s' => Q frames s'
    | .ok (.decided false) s' => Q [] s' := by
  have hv := h.visit hu hP
  unfold Search.advance
  generalize Search.visit s = r at hv
  match r, hv with
  | .error _ _, _ => trivial
  | .ok (.descend _) _, hs => exact hs
  | .ok (.verdict true) _, ⟨rfl, hQ⟩ =>
    simp only [unwind_true]
    exact h.pool _ hQ
  | .ok (.verdict false) _, ⟨rfl, hQ⟩ =>
    obtain ⟨s', heq, -, hs'⟩ | ⟨i, frames', s', heq, hu', hs'⟩ :=
      unwind_cases (P := Q) (fun _ _ _ hguess => h.giveUp hguess) hu.inspected hQ
    · simp only [heq]
      exact hs'
    · simp only [heq]
      exact h.turn hu' hs'

/-- A fact that the operations pass on holds in both of its forms where the run ends. -/
theorem solve (hp : p.Proper) (hs : s.Ready p) (h : Stepwise p s.trail.entries P Q)
    (hstart : P [] { s with log := [] }) (schedule : Schedule) :
    Closed s.trail.entries P Q (s.solve schedule) := by
  rw [solve_eq]
  refine advance_induction
    (P := fun frames s₁ => Exploring p s.trail.entries frames s₁ ∧ P frames s₁)
    schedule ?_ ?_ [] _ ⟨hs.exploring, hstart⟩
  · rintro n frames s₁ ⟨-, hP⟩ _
    exact .interrupted _ _ hP
  · rintro frames s₁ ⟨hexploring, hP⟩
    have hstep := h.advance hexploring.toUnderway hP
    obtain ⟨frames', s', heq, hs'⟩ | ⟨b, s', heq, hs'⟩ := hexploring.advance hp
    · simp only [heq] at hstep ⊢
      exact ⟨hs', hstep⟩
    · simp only [heq] at hstep ⊢
      cases b with
      | true => exact .solved hstep
      | false => exact .failed hstep hs'.2.1

end Stepwise

end Search

end Dpll
