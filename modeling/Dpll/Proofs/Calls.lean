import Mathlib
import Dpll.Proofs.Trail

/-!
Trails under calls in any order. A push that is refused and a pop of an empty trail leave the trail
as it is, so every sequence of calls leads to a trail that successful ones lead to. Main statement:
each request for the status is answered as if every clause were evaluated then, although it looks
at no clause if nothing has changed since the request before, and otherwise at the clauses up to
the first false one.
-/

namespace Dpll

/-- Something that a trail is asked to do. -/
inductive Call where
  | push (symbol : Nat) (value : Bool)
  | pop
  | status
  deriving DecidableEq, Repr

namespace Clause

variable {v : Valuation}

lemma evaluateLiterals_eq {literals : List Literal} (h : ∀ l ∈ literals, l.symbol < v.size) :
    evaluateLiterals v literals = .ok (v.assess literals).status := by
  induction literals with
  | nil => rfl
  | cons l literals ih =>
    obtain ⟨hl, hliterals⟩ := List.forall_mem_cons.mp h
    unfold evaluateLiterals
    rw [Valuation.evaluate_eq hl, ih hliterals]
    cases ht : v.truth l with
    | some b =>
      cases b with
      | true =>
        rw [Valuation.assess_eq_true ⟨l, List.mem_cons_self, ht⟩]
        rfl
      | false =>
        rw [Valuation.assess_cons_false ht]
        rfl
    | none =>
      -- A literal without a value decides nothing yet: a true one may follow.
      by_cases hs : (v.assess literals).status = some true
      · obtain ⟨k, hk, hkt⟩ := Valuation.status_assess_eq_true_iff.mp hs
        rw [hs, Valuation.assess_eq_true ⟨k, List.mem_cons_of_mem l hk, hkt⟩]
        rfl
      · rw [Valuation.assess_cons_none ht hs]
        change Except.ok (if _ then _ else _) = _
        rw [if_neg hs]

/-- A clause is worth what a refresh would put into its cache. -/
lemma evaluate_eq {c : Clause} (h : c.InRange v.size) :
    c.evaluate v = .ok (v.assess c.literals).status :=
  evaluateLiterals_eq h

/-- The clauses up to the first false one, which is included, or all of them. -/
def untilFalse (v : Valuation) (clauses : List Clause) : List Clause :=
  clauses.take (clauses.findIdx (·.evaluate v = .ok (some false)) + 1)

lemma untilFalse_cons (c : Clause) (clauses : List Clause) :
    untilFalse v (c :: clauses) =
      if c.evaluate v = .ok (some false) then [c] else c :: untilFalse v clauses := by
  rw [untilFalse, List.findIdx_cons, List.take_succ_cons]
  by_cases hc : c.evaluate v = .ok (some false)
  · simp [hc]
  · simp [hc, untilFalse]

end Clause

/-- A sweep refreshes the clauses up to the first false one and leaves the others as they are. -/
lemma Sweep.ofClauses_eq {v : Valuation} {clauses : List Clause}
    (h : ∀ c ∈ clauses, c.InRange v.size) :
    (ofClauses v clauses).refreshed = (Clause.untilFalse v clauses).length ∧
      (ofClauses v clauses).clauses = (Clause.untilFalse v clauses).map (·.refreshed v) ++
        clauses.drop (Clause.untilFalse v clauses).length := by
  induction clauses with
  | nil => exact ⟨rfl, rfl⟩
  | cons c clauses ih =>
    obtain ⟨hc, hclauses⟩ := List.forall_mem_cons.mp h
    obtain ⟨hrefreshed, hrest⟩ := ih hclauses
    unfold ofClauses
    rw [Clause.refresh_eq hc, Clause.untilFalse_cons, Clause.evaluate_eq hc]
    cases hs : (v.assess c.literals).status with
    | some b =>
      cases b with
      | false => exact ⟨rfl, rfl⟩
      | true => simp [hrefreshed, hrest]
    | none => simp [hrefreshed, hrest]

namespace Trail

/-- The trail that an action leaves behind, whether it succeeds or not. -/
def final {α : Type} : EStateM.Result Fault Trail α → Trail
  | .ok _ t | .error _ t => t

def succeeds {α : Type} : EStateM.Result Fault Trail α → Bool
  | .ok _ _ => true
  | .error _ _ => false

/-- The trail after a call, which may have been refused. -/
def after (t : Trail) : Call → Trail
  | .push i b => final (t.push i b)
  | .pop => final t.pop
  | .status => final t.status

/-- The trail after these calls, the last of which comes first. -/
def afterAll (t : Trail) : List Call → Trail
  | [] => t
  | call :: earlier => (t.afterAll earlier).after call

lemma afterAll_append (t : Trail) (later earlier : List Call) :
    t.afterAll (later ++ earlier) = (t.afterAll earlier).afterAll later := by
  induction later with
  | nil => rfl
  | cons call later ih => rw [List.cons_append, afterAll, afterAll, ih]

/-- The call gives a symbol a value or takes it away. -/
def isChanged (t : Trail) : Call → Bool
  | .push i b => succeeds (t.push i b)
  | .pop => succeeds t.pop
  | .status => false

/-- The status has been asked for since the last change, or since the trail was made. -/
def isSettled (t : Trail) : List Call → Bool
  | [] => false
  | call :: earlier =>
    call = .status || (!(t.afterAll earlier).isChanged call && t.isSettled earlier)

/-- The status as every clause is evaluated for it. -/
def eagerStatus (t : Trail) : Option Bool :=
  if t.entries = [] then none
  else if ∃ c ∈ t.clauses, c.evaluate t.valuation = .ok (some false) then some false
  else if ∀ c ∈ t.clauses, c.evaluate t.valuation = .ok (some true) then some true
  else none

/-- All that a call can come to: whether it changes a value, and the trail that it leaves. -/
inductive Outcome (t : Trail) : Call → Bool → Trail → Prop
  | pushed {i : Nat} {b : Bool} (hlt : i < t.valuation.size)
      (hnone : t.valuation.valueAt i = none) : Outcome t (.push i b) true (t.extend ⟨i, b⟩)
  | popped {e : Entry} {entries : List Entry} (he : t.entries = e :: entries) :
      Outcome t .pop true (t.retract e.symbol)
  | refused {call : Call} (hcall : call ≠ .status) : Outcome t call false t
  | asked : Outcome t .status false (final t.status)

theorem outcome_after (t : Trail) (call : Call) :
    Outcome t call (t.isChanged call) (t.after call) := by
  cases call with
  | push i b =>
    rw [isChanged, after]
    obtain ⟨hlt, hnone, heq⟩ | ⟨-, heq⟩ | ⟨-, heq⟩ := t.push_cases i b
    · rw [heq]
      exact .pushed hlt hnone
    · rw [heq]
      exact .refused (by simp)
    · rw [heq]
      exact .refused (by simp)
  | pop =>
    rw [isChanged, after]
    cases he : t.entries with
    | nil =>
      simp only [pop, he]
      exact .refused (by simp)
    | cons e entries =>
      rw [pop_eq he]
      exact .popped he
  | status => exact .asked

section Calls

variable {p : Problem} {t t' : Trail} {call : Call}

lemma Reached.after (h : t.Reached p) (call : Call) : (t.after call).Reached p := by
  have hcall := t.outcome_after call
  generalize t.after call = t', t.isChanged call = changed at hcall
  cases hcall with
  | pushed hlt hnone => exact h.push (push_eq hlt hnone _)
  | popped he => exact h.pop (pop_eq he)
  | refused => exact h
  | asked =>
    rw [h.consistent.status_eq]
    exact h.status h.consistent.status_eq

theorem reached_afterAll (p : Problem) (calls : List Call) :
    (p.trail.afterAll calls).Reached p := by
  induction calls with
  | nil => exact .new
  | cons call earlier ih => exact ih.after call

lemma Outcome.freshness_eq (h : Outcome t call true t') : t'.freshness = .stale := by
  cases h with
  | pushed => rfl
  | popped => rfl

lemma Outcome.eq_of_refused (h : Outcome t call false t') (hcall : call ≠ .status) : t' = t := by
  cases h with
  | refused => rfl
  | asked => exact absurd rfl hcall

/-- The calls say whether the last sweep is outdated. -/
lemma isSettled_eq_true_iff (p : Problem) (calls : List Call) :
    p.trail.isSettled calls = true ↔ (p.trail.afterAll calls).freshness ≠ .stale := by
  induction calls with
  | nil => simp [isSettled, afterAll, Problem.trail, Trail.new]
  | cons call earlier ih =>
    have hcons := (reached_afterAll p earlier).consistent
    rw [isSettled, afterAll, Bool.or_eq_true, decide_eq_true_iff, Bool.and_eq_true,
      Bool.not_eq_true', ih]
    by_cases hcall : call = .status
    · subst hcall
      rw [Trail.after, hcons.status_eq]
      simp [final, hcons.freshness_settle]
    · -- A change outdates the sweep, and a refused call leaves it as it was.
      have houtcome := (p.trail.afterAll earlier).outcome_after call
      generalize (p.trail.afterAll earlier).isChanged call = changed at houtcome ⊢
      cases changed with
      | true => simp [hcall, houtcome.freshness_eq]
      | false => simp [hcall, houtcome.eq_of_refused hcall]

lemma Consistent.eagerStatus_eq (h : t.Consistent p) :
    t.eagerStatus = t.verdict t.standing := by
  have hworth : ∀ b, ∀ c ∈ t.clauses, c.evaluate t.valuation = .ok (some b) ↔
      (t.valuation.assess c.literals).status = some b := by
    intro b c hc
    rw [Clause.evaluate_eq (h.inRange c hc), Except.ok.injEq]
  have hfalse : (∃ c ∈ t.clauses, c.evaluate t.valuation = .ok (some false)) ↔
      ∃ c ∈ t.clauses, (t.valuation.assess c.literals).status = some false :=
    exists_congr fun c => and_congr_right (hworth false c)
  have htrue : (∀ c ∈ t.clauses, c.evaluate t.valuation = .ok (some true)) ↔
      ∀ c ∈ t.clauses, (t.valuation.assess c.literals).status = some true :=
    forall₂_congr (hworth true)
  simp only [eagerStatus, hfalse, htrue, verdict, isEmpty, List.isEmpty_iff, standing,
    Valuation.status]

/-- However the calls before it went, a request for the status is answered as if every clause were
evaluated then. It refreshes no clause if the status has been asked for since the last change, and
otherwise the clauses up to the first false one. -/
theorem status_afterAll {calls : List Call} (ht : p.trail.afterAll calls = t) :
    ∃ t', t.status = .ok t.eagerStatus t' ∧
      t'.valuation = t.valuation ∧ t'.entries = t.entries ∧
      (p.trail.isSettled calls = true →
        t'.clauses = t.clauses ∧ t'.recomputations = t.recomputations) ∧
      (p.trail.isSettled calls = false →
        t'.clauses = (Clause.untilFalse t.valuation t.clauses).map (·.refreshed t.valuation) ++
            t.clauses.drop (Clause.untilFalse t.valuation t.clauses).length ∧
          t'.recomputations =
            t.recomputations + (Clause.untilFalse t.valuation t.clauses).length) := by
  have hcons : t.Consistent p := ht ▸ (reached_afterAll p calls).consistent
  have hsettled := isSettled_eq_true_iff p calls
  rw [ht] at hsettled
  refine ⟨t.settle, ?_, valuation_settle t, entries_settle t, ?_, ?_⟩
  · rw [hcons.status_eq, hcons.eagerStatus_eq]
  · intro h
    cases hf : t.freshness with
    | stale => exact absurd hf (hsettled.mp h)
    | swept status =>
      rw [settle_of_swept hf]
      exact ⟨rfl, rfl⟩
  · intro h
    have hf : t.freshness = .stale := by
      by_contra hne
      rw [hsettled.mpr hne] at h
      cases h
    obtain ⟨hrefreshed, hclauses⟩ := Sweep.ofClauses_eq hcons.inRange
    rw [settle_of_stale hf]
    exact ⟨hclauses, by rw [hrefreshed]⟩

/-- A request that finds a false clause, pops down to the empty trail and beyond, and a new push:
all clauses are looked at again. With the status known, a refused push changes nothing. -/
theorem status_afterAll_sample :
    ∃ calls : List Call,
      calls = [.push 0 false, .push 0 true, .pop, .pop, .pop, .status, .push 1 true, .push 0 true] ∧
      (∃ t t', Problem.sample.trail.afterAll calls = t ∧ t.recomputations = 2 ∧
        t.status = .ok none t' ∧ t'.recomputations = 6) ∧
      ∃ t t', Problem.sample.trail.afterAll (.push 9 true :: .status :: calls) = t ∧
        t.recomputations = 6 ∧ t.status = .ok none t' ∧ t'.recomputations = 6 := by
  refine ⟨_, rfl, ?_, ?_⟩
  · obtain ⟨t', hstatus, -, -, -, hswept⟩ := status_afterAll (p := Problem.sample) rfl
    refine ⟨_, t', rfl, by decide, hstatus, ?_⟩
    rw [(hswept (by decide)).2]
    decide
  · obtain ⟨t', hstatus, -, -, hkept, -⟩ := status_afterAll (p := Problem.sample) rfl
    refine ⟨_, t', rfl, by decide, hstatus, ?_⟩
    rw [(hkept (by decide)).2]
    decide

end Calls

end Trail

end Dpll
