import Dpll.Proofs.Search.Verdict

/-!
Searches that are run again. A run leaves the trail, the pool and the caches to the next one, but
not its frames, so a run that was cut short leaves guesses behind that the next one cannot turn.
Main statement: what the next run comes to depends on the entries that it finds, and on nothing
else.
-/

namespace Dpll

namespace Search

/-- The searches that earlier runs leave behind, each of them answered or cut short. -/
inductive Resumed (start : Search) : Search → Prop
  | start : Resumed start start
  | answered {s s' : Search} {schedule : Schedule} {solution : Solution} :
      Resumed start s → s.solve schedule = .ok solution s' → Resumed start s'
  | interrupted {s s' : Search} {schedule : Schedule} {n : Nat} :
      Resumed start s → s.solve schedule = .error (.interrupted n) s' → Resumed start s'

def Completes (s : Search) (schedule : Schedule) : Prop :=
  ∀ n s', s.solve schedule ≠ .error (.interrupted n) s'

/-- The answer of a run, if it came to one. -/
def answer? : EStateM.Result Stop Search Solution → Option Solution
  | .ok solution _ => some solution
  | .error _ _ => none

/-- The entries that a run left when it was cut short. -/
def leftover? : EStateM.Result Stop Search Solution → Option (List Entry)
  | .error (.interrupted _) s => some s.trail.entries
  | _ => none

lemma eq_ok_of_answer? {r : EStateM.Result Stop Search Solution} {solution : Solution}
    (h : answer? r = some solution) : ∃ s, r = .ok solution s := by
  cases r with
  | ok _ s =>
    cases h
    exact ⟨s, rfl⟩
  | error stop s => cases h

lemma eq_error_of_leftover? {r : EStateM.Result Stop Search Solution} {entries : List Entry}
    (h : leftover? r = some entries) :
    ∃ n s, r = .error (.interrupted n) s ∧ s.trail.entries = entries := by
  cases r with
  | ok _ s => cases h
  | error stop s =>
    cases stop with
    | interrupted n =>
      cases h
      exact ⟨n, s, rfl, rfl⟩
    | fault f => cases h

section Solved

variable {p : Problem} {s : Search}

lemma Solved.visit_eq (h : s.Solved p) : visit s = .ok (.verdict true) s.inspected := by
  have hv := visited_visit h.consistent
  have hstanding := h.standing_eq
  generalize visit s = r at hv
  -- Without a verdict nothing is assigned, and then nothing was left to assign either.
  have hroot : s.trail.Undetermined → s.pool = [] ∧ s.trail.clauses = [] := by
    intro hopen
    apply h.root
    by_contra hne
    rw [hopen.standing_eq hne] at hstanding
    cases hstanding
  have hbranch : s.trail.Undetermined →
      Decision.choose s.trail.valuation.size s.pool s.trail.settle.undecided = .branch := by
    intro hopen
    obtain ⟨hpool, hclauses⟩ := hroot hopen
    rw [hpool, Trail.undecided, Trail.clauses_settle_eq_nil.mpr hclauses, List.filter_nil]
    rfl
  cases hv with
  | verdict hne hb =>
    rw [hstanding] at hb
    cases hb
    rfl
  | falseAtRoot hnil hb =>
    rw [hstanding] at hb
    cases hb
  | forced hopen hc hmem | notInPool hopen hc hmem =>
    rw [hbranch hopen] at hc
    cases hc
  | vacuous hopen hpool hclauses => rfl
  | clausesRemain hopen hpool hclauses => exact absurd (hroot hopen).2 hclauses
  | guessed hopen hpool | alreadyAssigned hopen hpool | outOfRange hopen hpool =>
    rw [(hroot hopen).1] at hpool
    cases hpool

lemma Solved.trail_inspected (h : s.Solved p) : s.inspected.trail = s.trail :=
  Trail.settle_of_swept h.freshness

lemma Solved.inspected (h : s.Solved p) : s.inspected.Solved p where
  consistent := consistent_inspected h.consistent
  freshness := by
    rw [h.trail_inspected]
    exact h.freshness
  root := by
    rw [h.trail_inspected]
    exact h.root

/-- The next run after a success is cut short before its first node or ends there. -/
lemma Solved.solve_eq (h : s.Solved p) (schedule : Schedule) :
    s.solve schedule =
      if (schedule 0).stops then
        .error (.interrupted s.stats.nodes) (Search.record (.interrupted s.stats.nodes
          (schedule 0).cancelled (schedule 0).expired) { s with log := [] })
      else finish true (Search.inspected { s with log := [] }) := by
  have hs : Solved p { s with log := [] } := ⟨h.consistent, h.freshness, h.root⟩
  rw [Search.solve_eq, runFrom_eq]
  by_cases hstop : (schedule 0).stops = true
  · rw [turn_of_stops hstop, if_pos hstop]
  · rw [turn_of_not_stops hstop, if_neg hstop]
    simp only [Search.advance, hs.visit_eq, unwind]

lemma Solved.ended (h : s.Solved p) (schedule : Schedule) :
    Ended p s.trail.entries schedule (s.solve schedule) := by
  have hs : Solved p { s with log := [] } := ⟨h.consistent, h.freshness, h.root⟩
  rw [h.solve_eq]
  by_cases hstop : (schedule 0).stops = true
  · rw [if_pos hstop]
    exact .interrupted hstop (.inr (hs.record _)) List.suffix_rfl
  · rw [if_neg hstop]
    have hentries := entries_inspected { s with log := [] }
    exact ended_finish ⟨hs.inspected, hentries ▸ List.suffix_rfl⟩

end Solved

section Resumed

variable {p : Problem} {t : Trail} {s s' : Search} {schedule : Schedule}

lemma Resumable.ended (hp : p.Proper) (h : s.Resumable p) (schedule : Schedule) :
    Ended p s.trail.entries schedule (s.solve schedule) := by
  obtain hready | hsolved := h
  · exact ended_solve hp hready schedule
  · exact hsolved.ended schedule

/-- Earlier runs leave a search that may go on or one that has found a solution. -/
theorem Resumed.resumable (hp : p.Proper) (ht : t.Consistent p) (hnil : t.entries = [])
    (h : Resumed (new t) s) : s.Resumable p := by
  induction h with
  | start => exact .inl (ready_new ht hnil)
  | @answered _ _ schedule _ _ hsolve ih =>
    have hended := ih.ended hp schedule
    rw [hsolve] at hended
    cases hended with
    | solved hs => exact .inr hs
    | unsat hs => exact .inl hs
  | @interrupted _ _ schedule _ _ hsolve ih =>
    have hended := ih.ended hp schedule
    rw [hsolve] at hended
    cases hended with
    | interrupted _ hs => exact hs

/-- A run that is not cut short succeeds or leaves the entries that have no solution. -/
lemma Completes.ended (hp : p.Proper) (h : s.Resumable p) (hc : s.Completes schedule) :
    (p.Solvable s.trail.entries ∧ ∃ s', s'.Solved p ∧
        s.solve schedule = .ok (.ofValuation s'.trail.valuation) s') ∨
      (¬ p.Solvable s.trail.entries ∧ ∃ s', s'.Ready p ∧ s'.trail.entries = s.trail.entries ∧
        s.solve schedule =
          if s.trail.entries = [] then .ok .unsat s' else .error (.fault .trailNotEmpty) s') := by
  have hended := h.ended hp schedule
  unfold Completes at hc
  generalize s.solve schedule = r at hended hc
  cases hended with
  | interrupted => exact absurd rfl (hc _ _)
  | solved hs hbase => exact .inl ⟨hs.solvable hbase, _, hs, rfl⟩
  | unsat hs hbase hnil hnone => exact .inr ⟨hnone, _, hs, hbase, by rw [if_pos hnil]⟩
  | notEmpty hs hbase hne hnone => exact .inr ⟨hnone, _, hs, hbase, by rw [if_neg hne]⟩

lemma Completes.solve_unsat (hp : p.Proper) (h : s.Resumable p) (hc : s.Completes schedule)
    (hempty : s.trail.entries = []) (hnone : ¬ p.Solvable []) :
    ∃ s', s.solve schedule = .ok .unsat s' := by
  obtain ⟨hsolvable, -⟩ | ⟨-, s', -, -, heq⟩ := hc.ended hp h
  · rw [hempty] at hsolvable
    exact absurd hsolvable hnone
  · rw [if_pos hempty] at heq
    exact ⟨s', heq⟩

lemma Completes.solve_again (hc : s.Completes schedule) (h : s.Solved p) :
    ∃ s', s.solve schedule = .ok (.ofValuation s.trail.valuation) s' ∧ s'.trail = s.trail ∧
      s'.stats = s.stats.countNode := by
  have heq := h.solve_eq schedule
  by_cases hstop : (schedule 0).stops = true
  · rw [if_pos hstop] at heq
    exact absurd heq (hc _ _)
  · rw [if_neg hstop, finish_true] at heq
    have htrail : (inspected { s with log := [] }).trail = s.trail := h.trail_inspected
    rw [htrail] at heq
    exact ⟨_, heq, htrail, rfl⟩

lemma solved_of_solve (hp : p.Proper) (h : s.Resumable p) {a : List (Nat × Option Bool)}
    (hsolve : s.solve schedule = .ok (.sat a) s') :
    s'.Solved p ∧ .sat a = Solution.ofValuation s'.trail.valuation := by
  have hended := h.ended hp schedule
  rw [hsolve] at hended
  generalize hsol : Solution.sat a = solution at hended
  cases hended with
  | solved hs => exact ⟨hs, rfl⟩
  | unsat => cases hsol

lemma ready_of_solve (hp : p.Proper) (h : s.Resumable p)
    (hsolve : s.solve schedule = .ok .unsat s') :
    s'.Ready p ∧ s'.trail.entries = [] ∧ ¬ p.Solvable [] := by
  have hended := h.ended hp schedule
  rw [hsolve] at hended
  generalize hsol : Solution.unsat = solution at hended
  cases hended with
  | solved => cases hsol
  | unsat hs hbase hnil hnone =>
    rw [hnil] at hbase hnone
    exact ⟨hs, hbase, hnone⟩

lemma Ready.perm (h : s.Ready p) {pool : List Nat} (hperm : pool.Perm s.pool) :
    Ready p { s with pool } where
  consistent := h.consistent
  pooled := {
    nodup := hperm.nodup_iff.mpr h.pooled.nodup
    mem_iff := fun i => hperm.mem_iff.trans (h.pooled.mem_iff i) }

lemma completes_unlimited (s : Search) : s.Completes .unlimited := by
  unfold Completes
  rw [Search.solve_eq]
  refine advance_induction (P := fun _ _ => True)
    (Q := fun r => ∀ n s', r ≠ .error (.interrupted n) s') .unlimited ?_ ?_ [] _ trivial
  · intro n _ _ _ hstop
    exact absurd hstop (not_stops_unlimited n)
  · intro frames s₁ _
    match advance frames s₁ with
    | .error _ _ => simp
    | .ok (.pending _) _ => trivial
    | .ok (.decided b) s₂ => exact finish_ne_interrupted b s₂

/-- A run that is not cut short, after any number of others, succeeds if the entries that it finds
have a solution. If they have none it answers so if there are none, and else fails and leaves
them. After an answer it gives the same answer again. -/
theorem solve_resumed (hp : p.Proper) (ht : t.Reached p) (hnil : t.entries = [])
    (hs : Resumed (new t) s) (hc : s.Completes schedule) :
    (p.Solvable s.trail.entries → ∃ a s', s.solve schedule = .ok (.sat a) s') ∧
      (s.trail.entries = [] → ¬ p.Solvable [] → ∃ s', s.solve schedule = .ok .unsat s') ∧
      (s.trail.entries ≠ [] → ¬ p.Solvable s.trail.entries →
        ∃ s', s.solve schedule = .error (.fault .trailNotEmpty) s' ∧
          s'.trail.entries = s.trail.entries) ∧
      (∀ s₀ schedule₀ a, Resumed (new t) s₀ → s₀.solve schedule₀ = .ok (.sat a) s →
        ∃ s', s.solve schedule = .ok (.sat a) s' ∧ s'.trail = s.trail ∧
          s'.stats = s.stats.countNode) ∧
      ∀ s₀ schedule₀, Resumed (new t) s₀ → s₀.solve schedule₀ = .ok .unsat s →
        ∀ pool schedule', pool.Perm s.pool → Completes { s with pool } schedule' →
          ∃ s', solve schedule' { s with pool } = .ok .unsat s' := by
  have hstate : ∀ {s₁ : Search}, Resumed (new t) s₁ → s₁.Resumable p :=
    fun h => h.resumable hp ht.consistent hnil
  have hended := hc.ended hp (hstate hs)
  refine ⟨?_, ?_, ?_, ?_, ?_⟩
  · intro hsolvable
    obtain ⟨-, s', -, heq⟩ | ⟨hnone, -⟩ := hended
    · exact ⟨_, s', heq⟩
    · exact absurd hsolvable hnone
  · intro hempty hnone
    exact hc.solve_unsat hp (hstate hs) hempty hnone
  · intro hne hnone
    obtain ⟨hsolvable, -⟩ | ⟨-, s', -, hentries, heq⟩ := hended
    · exact absurd hsolvable hnone
    · rw [if_neg hne] at heq
      exact ⟨s', heq, hentries⟩
  · intro s₀ schedule₀ a hs₀ hsolve
    obtain ⟨hsolved, ha⟩ := solved_of_solve hp (hstate hs₀) hsolve
    rw [ha]
    exact hc.solve_again hsolved
  · intro s₀ schedule₀ hs₀ hsolve pool schedule' hperm hc'
    obtain ⟨hready, hempty, hnone⟩ := ready_of_solve hp (hstate hs₀) hsolve
    exact hc'.solve_unsat hp (.inl (hready.perm hperm)) hempty hnone

theorem solve_resumed_sample :
    (∃ n s, (new Problem.sample.trail).solve (Schedule.unlimited.cancelAfter 1) =
        .error (.interrupted n) s ∧ s.trail.entries = [⟨0, true⟩] ∧
      ∃ s', s.solve .unlimited = .error (.fault .trailNotEmpty) s' ∧
        s'.trail.entries = s.trail.entries) ∧
      ∃ a s s', (new Problem.sample.trail).solve .unlimited = .ok (.sat a) s ∧
        s.solve .unlimited = .ok (.sat a) s' ∧ s'.trail = s.trail := by
  have hp : Problem.sample.Proper := by decide
  constructor
  · have hleft : leftover? ((new Problem.sample.trail).solve (Schedule.unlimited.cancelAfter 1)) =
        some [⟨0, true⟩] := by
      rw [solve_eq, runFrom_eq]
      cbv
    obtain ⟨n, s, hsolve, hentries⟩ := eq_error_of_leftover? hleft
    have hs : Resumed (new Problem.sample.trail) s := .interrupted .start hsolve
    have h := solve_resumed hp .new rfl hs (completes_unlimited s)
    refine ⟨n, s, hsolve, hentries, h.2.2.1 ?_ ?_⟩
    · rw [hentries]
      simp
    · rw [hentries]
      exact Problem.not_solvable_sample
  · have hanswer : answer? ((new Problem.sample.trail).solve .unlimited) =
        some (.sat [(1, some false), (2, some false), (3, some true)]) := by
      rw [solve_eq, runFrom_eq]
      cbv
    obtain ⟨s, hsolve⟩ := eq_ok_of_answer? hanswer
    have hs : Resumed (new Problem.sample.trail) s := .answered .start hsolve
    have h := solve_resumed hp .new rfl hs (completes_unlimited s)
    obtain ⟨s', heq, htrail, -⟩ := h.2.2.2.1 _ _ _ .start hsolve
    exact ⟨_, s, s', hsolve, heq, htrail⟩

end Resumed

end Search

end Dpll
