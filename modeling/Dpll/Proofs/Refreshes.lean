import Dpll.Proofs.Calls
import Dpll.Proofs.Clause
import Dpll.Proofs.Decision

/-!
Which values the caches of a trail belong to. A request for the status that is the first since a
change refreshes the clauses up to the first false one; the others keep what an earlier request
left them. Main statement: after any calls, a cache is what the last refresh that came as far as
its clause found, and the open clauses are told only where all caches belong to the present
values, that is, with the literals that are without a value now.
-/

namespace Dpll

namespace Clause

variable {v : Valuation}

/-- The clause with no verdict in its cache and all its literals without a value. -/
def asOpen (v : Valuation) (c : Clause) : Clause :=
  { c with cache := { unassigned := c.free v } }

/-- How far a refresh comes depends on the literals alone. -/
lemma length_untilFalse_congr {cs ds : List Clause}
    (h : cs.map (·.literals) = ds.map (·.literals)) :
    (untilFalse v cs).length = (untilFalse v ds).length := by
  have hlength : ∀ es : List Clause, (untilFalse v es).length =
      min ((es.map (·.literals)).findIdx (evaluateLiterals v · = .ok (some false)) + 1)
        (es.map (·.literals)).length := by
    intro es
    rw [untilFalse, List.length_take, List.findIdx_map, List.length_map]
    rfl
  rw [hlength, hlength, h]

lemma refreshed_congr {c d : Clause} (h : c.literals = d.literals) :
    c.refreshed v = d.refreshed v := by
  cases c
  cases d
  cases h
  rfl

lemma refreshed_eq_asOpen {c : Clause} (hc : c.InRange v.size)
    (hs : (v.assess c.literals).status = none) : c.refreshed v = c.asOpen v := by
  have hcache : v.assess c.literals = { unassigned := c.free v } := by
    rw [free_eq hc, ← Valuation.unassigned_assess (by simp [hs]), ← hs]
  rw [refreshed, asOpen, hcache]

end Clause

/-- After a sweep, the clauses up to the first false one are refreshed and no others. -/
lemma Sweep.getElem?_ofClauses {v : Valuation} {clauses : List Clause}
    (h : ∀ c ∈ clauses, c.InRange v.size) (i : Nat) :
    (ofClauses v clauses).clauses[i]? =
      if i < (Clause.untilFalse v clauses).length then clauses[i]?.map (·.refreshed v)
      else clauses[i]? := by
  rw [(ofClauses_eq h).2]
  have hlen : (Clause.untilFalse v clauses).length ≤ clauses.length := by
    simp [Clause.untilFalse]
  by_cases hi : i < (Clause.untilFalse v clauses).length
  · have htake : (Clause.untilFalse v clauses)[i]? = clauses[i]? := by
      rw [Clause.untilFalse, List.length_take] at hi
      rw [Clause.untilFalse, List.getElem?_take_of_lt (by omega)]
    rw [if_pos hi, List.getElem?_append_left (by simpa using hi), List.getElem?_map, htake]
  · rw [if_neg hi, List.getElem?_append_right (by simpa using hi), List.getElem?_drop,
      List.length_map]
    congr 1
    omega

namespace Trail

/-- The valuations under which the clauses were refreshed, the latest first. -/
def refreshes (t : Trail) : List Call → List Valuation
  | [] => []
  | call :: earlier =>
    if call = .status ∧ t.isSettled earlier = false then
      (t.afterAll earlier).valuation :: t.refreshes earlier
    else t.refreshes earlier

/-- The valuation of the last refresh that came as far as the clause at this place. -/
def lastReaching (t : Trail) (calls : List Call) (i : Nat) : Option Valuation :=
  (t.refreshes calls).find? fun v => i < (Clause.untilFalse v t.clauses).length

section Refreshes

variable {p : Problem} {t t' : Trail} {call : Call} {changed : Bool}

lemma Outcome.clauses_eq (h : Outcome t call changed t') (hcall : call ≠ .status) :
    t'.clauses = t.clauses := by
  cases h with
  | pushed => rfl
  | popped => rfl
  | refused => rfl
  | asked => exact absurd rfl hcall

lemma clauses_after (t : Trail) (hcall : call ≠ .status) :
    (t.after call).clauses = t.clauses :=
  (t.outcome_after call).clauses_eq hcall

lemma Consistent.after_status (h : t.Consistent p) : t.after .status = t.settle := by
  rw [after, h.status_eq]
  rfl

lemma Consistent.getElem?_settle (h : t.Consistent p) (hstale : t.freshness = .stale) (i : Nat) :
    t.settle.clauses[i]? =
      if i < (Clause.untilFalse t.valuation p.clauses).length then
        t.clauses[i]?.map (·.refreshed t.valuation)
      else t.clauses[i]? := by
  rw [settle_of_stale hstale, Sweep.getElem?_ofClauses h.inRange,
    Clause.length_untilFalse_congr h.literals_eq]

lemma isSettled_eq_false_iff (p : Problem) (calls : List Call) :
    p.trail.isSettled calls = false ↔ (p.trail.afterAll calls).freshness = .stale := by
  rw [← Bool.not_eq_true, isSettled_eq_true_iff, not_ne_iff]

/-- If the status is known, the last refresh saw the present values. -/
lemma head?_refreshes {calls : List Call} (h : p.trail.isSettled calls = true) :
    (p.trail.refreshes calls).head? = some (p.trail.afterAll calls).valuation := by
  induction calls with
  | nil => cases h
  | cons call earlier ih =>
    have hcons := (reached_afterAll p earlier).consistent
    rw [refreshes, afterAll]
    by_cases hcall : call = .status
    · subst hcall
      rw [hcons.after_status, valuation_settle]
      by_cases hs : p.trail.isSettled earlier = false
      · simp [hs]
      · rw [if_neg (by simp [hs])]
        exact ih (Bool.eq_true_of_not_eq_false hs)
    · rw [isSettled, Bool.or_eq_true, decide_eq_true_iff, Bool.and_eq_true,
        Bool.not_eq_true'] at h
      obtain ⟨hchanged, hs⟩ := h.resolve_left hcall
      have houtcome := (p.trail.afterAll earlier).outcome_after call
      rw [hchanged] at houtcome
      rw [if_neg (by simp [hcall]), houtcome.eq_of_refused hcall]
      exact ih hs

lemma size_of_mem_refreshes {calls : List Call} {v : Valuation}
    (h : v ∈ p.trail.refreshes calls) : v.size = p.ids.length := by
  induction calls with
  | nil => cases h
  | cons call earlier ih =>
    rw [refreshes] at h
    split at h
    · obtain rfl | h := List.mem_cons.mp h
      · exact (reached_afterAll p earlier).consistent.size_eq
      · exact ih h
    · exact ih h

lemma lastReaching_status {earlier : List Call} (hs : t.isSettled earlier = false) (i : Nat) :
    t.lastReaching (.status :: earlier) i =
      if i < (Clause.untilFalse (t.afterAll earlier).valuation t.clauses).length then
        some (t.afterAll earlier).valuation
      else t.lastReaching earlier i := by
  rw [lastReaching, refreshes, if_pos (And.intro rfl hs), List.find?_cons]
  split
  next hi => rw [if_pos (of_decide_eq_true hi)]
  next hi => rw [if_neg (of_decide_eq_false hi), lastReaching]

lemma lastReaching_kept {earlier : List Call}
    (h : ¬ (call = .status ∧ t.isSettled earlier = false)) (i : Nat) :
    t.lastReaching (call :: earlier) i = t.lastReaching earlier i := by
  rw [lastReaching, refreshes, if_neg h, lastReaching]

/-- A clause is as it was given, or as the last refresh that came to it left it. -/
lemma getElem?_afterAll {i : Nat} {c : Clause} (hc : p.clauses[i]? = some c) (calls : List Call) :
    (p.trail.afterAll calls).clauses[i]? =
      some ((p.trail.lastReaching calls i).elim c c.refreshed) := by
  induction calls with
  | nil => exact hc
  | cons call earlier ih =>
    have hcons := (reached_afterAll p earlier).consistent
    rw [afterAll]
    by_cases hcall : call = .status
    · subst hcall
      rw [hcons.after_status]
      by_cases hs : p.trail.isSettled earlier = false
      · -- The clauses are swept over; those that the sweep does not come to are as before.
        have hstale := (isSettled_eq_false_iff p earlier).mp hs
        rw [hcons.getElem?_settle hstale, ih, lastReaching_status hs]
        change (if i < (Clause.untilFalse _ p.clauses).length then _ else _) = some
          ((if i < (Clause.untilFalse _ p.clauses).length then _ else _ : Option Valuation).elim _ _)
        split
        · have hliterals :
              ((p.trail.lastReaching earlier i).elim c c.refreshed).literals = c.literals := by
            cases p.trail.lastReaching earlier i <;> rfl
          exact congrArg some (Clause.refreshed_congr hliterals)
        · rfl
      · have hfresh := (isSettled_eq_true_iff p earlier).mp (Bool.eq_true_of_not_eq_false hs)
        have hkept : (p.trail.afterAll earlier).settle = p.trail.afterAll earlier := by
          cases hf : (p.trail.afterAll earlier).freshness with
          | stale => exact absurd hf hfresh
          | swept status => exact settle_of_swept hf
        rw [hkept, lastReaching_kept (by simp [hs])]
        exact ih
    · rw [clauses_after _ hcall, lastReaching_kept (by simp [hcall])]
      exact ih

end Refreshes

namespace Consistent

variable {p : Problem} {t : Trail}

lemma evaluate_eq (h : t.Consistent p) {c : Clause} (hc : c ∈ p.clauses) :
    c.evaluate t.valuation = .ok (t.valuation.assess c.literals).status := by
  apply Clause.evaluate_eq
  rw [h.size_eq]
  exact p.inRange c hc

lemma exists_false_iff (h : t.Consistent p) :
    (∃ c ∈ p.clauses, c.evaluate t.valuation = .ok (some false)) ↔ t.standing = some false := by
  rw [h.standing_eq_status, Valuation.status_eq_false_iff]
  apply exists_congr
  intro c
  apply and_congr_right
  intro hc
  rw [h.evaluate_eq hc, Except.ok.injEq]

lemma upToDate_iff (h : t.Consistent p) :
    t.UpToDate ↔ t.freshness ≠ .stale ∧ t.standing ≠ some false := by
  constructor
  · rintro ⟨status, hs, hne⟩
    rw [← h.swept status hs, hs]
    exact ⟨by simp, hne⟩
  · rintro ⟨hfresh, hne⟩
    cases hf : t.freshness with
    | stale => exact absurd hf hfresh
    | swept status => exact ⟨status, hf, h.swept status hf ▸ hne⟩

lemma clauses_eq (h : t.Consistent p) (hu : t.UpToDate) :
    t.clauses = p.clauses.map (·.refreshed t.valuation) := by
  obtain ⟨status, hs, hne⟩ := hu
  have hliterals : ∀ cs : List Clause, cs.map (·.refreshed t.valuation) =
      (cs.map (·.literals)).map fun ls => ⟨ls, t.valuation.assess ls⟩ := by
    intro cs
    rw [List.map_map]
    rfl
  have hself : ∀ c ∈ t.clauses, c.refreshed t.valuation = id c := by
    intro c hc
    rw [Clause.refreshed, ← h.current status hs hne c hc]
    rfl
  calc t.clauses = t.clauses.map (·.refreshed t.valuation) := by
        rw [List.map_congr_left hself, List.map_id]
    _ = p.clauses.map (·.refreshed t.valuation) := by
        rw [hliterals, hliterals, h.literals_eq]

/-- As long as no clause is false, those that are not true are open. -/
lemma refreshed_eq_asOpen (h : t.Consistent p) (hu : t.UpToDate) {c : Clause}
    (hc : c ∈ Clause.untrue t.valuation p.clauses) :
    c.refreshed t.valuation = c.asOpen t.valuation := by
  obtain ⟨hmem, htrue⟩ := List.mem_filter.mp hc
  have hfalse : c.evaluate t.valuation ≠ .ok (some false) :=
    fun hf => (h.upToDate_iff.mp hu).2 (h.exists_false_iff.mp ⟨c, hmem, hf⟩)
  apply Clause.refreshed_eq_asOpen (h.size_eq ▸ p.inRange c hmem)
  rw [h.evaluate_eq hmem] at htrue hfalse
  cases hs : (t.valuation.assess c.literals).status with
  | none => rfl
  | some b =>
    cases b with
    | true => simp [hs] at htrue
    | false => exact absurd (congrArg Except.ok hs) hfalse

/-- Caches that are told belong to the present values. -/
lemma openClauses_eq (h : t.Consistent p) (hu : t.UpToDate) :
    t.openClauses =
      .ok ((Clause.untrue t.valuation p.clauses).map (·.asOpen t.valuation)) := by
  have hfilter : p.clauses.filter ((fun c : Clause => decide (c.cache.status ≠ some true)) ∘
      (·.refreshed t.valuation)) = Clause.untrue t.valuation p.clauses := by
    apply List.filter_congr
    intro c hc
    rw [h.evaluate_eq hc]
    simp [Clause.refreshed]
  rw [hu.openClauses_eq, undecided, h.clauses_eq hu, List.filter_map, hfilter,
    List.map_congr_left fun c hc => h.refreshed_eq_asOpen hu hc]

end Consistent

section Calls

variable {p : Problem} {t : Trail}

/-- However the calls went, caches are told only if the status has been asked for since the last
change and that request met no false clause. They then belong to the present values. At any time a
cache is what the last refresh that came to its clause found, or the one that it came with. -/
theorem openClauses_afterAll {calls : List Call} (ht : p.trail.afterAll calls = t) :
    (t.openClauses = .error .staleCaches ↔
        p.trail.isSettled calls = false ∨
          ∃ v, (p.trail.refreshes calls).head? = some v ∧
            ∃ c ∈ p.clauses, c.evaluate v = .ok (some false)) ∧
      (t.openClauses ≠ .error .staleCaches → t.openClauses =
        .ok ((Clause.untrue t.valuation p.clauses).map (·.asOpen t.valuation))) ∧
      t.clauses.length = p.clauses.length ∧
      ∀ i c, p.clauses[i]? = some c →
        (p.trail.lastReaching calls i = none → t.clauses[i]? = some c) ∧
        ∀ v, p.trail.lastReaching calls i = some v →
          ∃ status d, c.refresh v = .ok status d ∧ t.clauses[i]? = some d := by
  have hcons : t.Consistent p := ht ▸ (reached_afterAll p calls).consistent
  refine ⟨?_, ?_, ?_, ?_⟩
  · rw [openClauses_eq_error_iff, hcons.upToDate_iff, not_and_or, not_ne_iff, not_ne_iff,
      ← hcons.exists_false_iff, ← ht, ← isSettled_eq_false_iff]
    cases hs : p.trail.isSettled calls with
    | false => simp
    | true => simp [head?_refreshes hs]
  · intro htold
    rw [Ne, openClauses_eq_error_iff, not_not] at htold
    exact hcons.openClauses_eq htold
  · simpa using congrArg List.length hcons.literals_eq
  · intro i c hc
    have hclause := getElem?_afterAll hc calls
    rw [ht] at hclause
    constructor
    · intro hnone
      rw [hclause, hnone]
      rfl
    · intro v hv
      rw [hv] at hclause
      have hsize := size_of_mem_refreshes (List.mem_of_find?_eq_some hv)
      have hrange : c.InRange v.size := hsize ▸ p.inRange c (List.mem_of_getElem? hc)
      exact ⟨_, _, Clause.refresh_eq hrange, hclause⟩

/-- A request that stops at the second clause: the third one still has the cache of the request
before, although it is true now. After a pop, a new request and a refused push all caches are
told. -/
theorem openClauses_afterAll_sample :
    ∃ calls : List Call, calls = [.status, .push 1 true, .push 0 true, .status] ∧
      (∃ t, Problem.sample.trail.afterAll calls = t ∧ t.openClauses = .error .staleCaches ∧
        ∃ c ∈ Problem.sample.clauses, ∃ status d, Problem.sample.clauses[2]? = some c ∧
          c.refresh (.ofIds [1, 2, 3]) = .ok status d ∧ t.clauses[2]? = some d ∧
          d.cache.unassigned = c.literals) ∧
      ∃ t, Problem.sample.trail.afterAll (.push 0 false :: .status :: .pop :: calls) = t ∧
        t.openClauses = .ok ((Problem.sample.clauses.take 2).map (·.asOpen t.valuation)) := by
  refine ⟨_, rfl, ?_, ?_⟩
  · obtain ⟨hstale, -, -, hcache⟩ := openClauses_afterAll (p := Problem.sample) rfl
    have hstop : ∃ v, (Problem.sample.trail.refreshes
        [.status, .push 1 true, .push 0 true, .status]).head? = some v ∧
        ∃ c ∈ Problem.sample.clauses, c.evaluate v = .ok (some false) :=
      ⟨⟨#[⟨1, some true⟩, ⟨2, some true⟩, ⟨3, none⟩]⟩, by decide, by decide⟩
    refine ⟨_, rfl, hstale.mpr (.inr hstop), ?_⟩
    obtain ⟨status, d, hd, ht⟩ := (hcache 2 _ rfl).2 (.ofIds [1, 2, 3]) (by decide)
    refine ⟨_, by decide, status, d, rfl, hd, ht, ?_⟩
    cases hd
    decide
  · obtain ⟨-, htold, -, -⟩ := openClauses_afterAll (p := Problem.sample) rfl
    refine ⟨_, rfl, (htold (by decide)).trans ?_⟩
    decide

end Calls

end Trail

end Dpll
