import Dpll.Proofs.Finality
import Dpll.Proofs.Writes

/-!
Two ways along the literals of a clause. A refresh collects the literals without a value and drops
them again when a true literal comes; an evaluation keeps no more than whether there was one. Main
statement: over any values the two come to the same answer or break off at the same literal, the
answer says what the values leave possible, and a refresh puts it into the cache, whatever was
there before. Nothing asks that the literals have symbols.
-/

namespace Dpll

namespace Clause

/-- Goes along these literals, where those in front have come to this value. -/
def judgeFrom (v : Valuation) (status : Option Bool) : List Literal → Except Fault (Option Bool)
  | [] => .ok status
  | l :: rest =>
    match v.evaluate l with
    | .error fault => .error fault
    | .ok (some true) => .ok (some true)
    | .ok (some false) => judgeFrom v status rest
    | .ok none => judgeFrom v none rest

/-- An evaluation in the order of its reads: the clause is false until a literal says otherwise. -/
def judge (v : Valuation) (c : Clause) : Except Fault (Option Bool) :=
  judgeFrom v (some false) c.literals

/-- What an action comes to, whatever it leaves of the clause. -/
def answer : EStateM.Result Fault Clause (Option Bool) → Except Fault (Option Bool)
  | .ok status _ => .ok status
  | .error fault _ => .error fault

/-- The clause with so many of its literals, from the first on. -/
def front (n : Nat) (c : Clause) : Clause :=
  { c with literals := c.literals.take n }

/-- The literal stands in this place, and there the action breaks off: it gives an answer for the
literals in front, and for no stretch that the literal belongs to. -/
structure StopsAt (act : Clause → Except Fault (Option Bool)) (c : Clause) (n : Nat)
    (l : Literal) : Prop where
  getElem?_eq : c.literals[n]? = some l
  ok_of_le : ∀ m ≤ n, ∃ status, act (c.front m) = .ok status
  error_of_lt : ∀ m, n < m → act (c.front m) = .error (.outOfRange l.symbol)

section Literals

variable {v : Valuation} {literals : List Literal} {cache : Cache}

lemma judgeFrom_eq {status : Option Bool} (hs : status ≠ some true) :
    judgeFrom v status literals = (evaluateLiterals v literals).map fun rest =>
      if rest = some true ∨ status = some false then rest else none := by
  induction literals generalizing status with
  | nil =>
    cases status with
    | none => rfl
    | some b =>
      cases b with
      | false => rfl
      | true => exact absurd rfl hs
  | cons l literals ih =>
    unfold judgeFrom evaluateLiterals
    cases hl : v.evaluate l with
    | error fault => rfl
    | ok x =>
      cases x with
      | some b =>
        cases b with
        | true => rfl
        | false => exact ih hs
      | none =>
        dsimp only [bind, Except.bind]
        rw [ih (by simp)]
        cases evaluateLiterals v literals with
        | error fault => rfl
        | ok rest =>
          by_cases hrest : rest = some true <;> simp [Except.map, pure, Except.pure, hrest]

/-- The order of the reads does not show in the value. -/
theorem judge_eq (v : Valuation) : judge v = evaluate v := by
  funext c
  rw [judge, judgeFrom_eq (by simp), evaluate]
  cases evaluateLiterals v c.literals <;> simp [Except.map]

lemma exists_true_of_scan (h : (scan v literals).1.status = some true) :
    ∃ l ∈ literals, v.truth l = some true := by
  induction literals with
  | nil => cases h
  | cons l literals ih =>
    cases hl : v.evaluate l with
    | error fault =>
      rw [scan, hl] at h
      cases h
    | ok x =>
      have htruth : v.truth l = x := by
        rw [Valuation.evaluate_eq (Valuation.lt_size_of_evaluate hl)] at hl
        exact Except.ok.inj hl
      cases x with
      | some b =>
        rw [scan, hl] at h
        cases b with
        | true => exact ⟨l, List.mem_cons_self, htruth⟩
        | false =>
          obtain ⟨k, hk, ht⟩ := ih h
          exact ⟨k, List.mem_cons_of_mem l hk, ht⟩
      | none =>
        rw [scan_cons_none hl] at h
        by_cases ht : (scan v literals).1.status = some true
        · obtain ⟨k, hk, hkt⟩ := ih ht
          exact ⟨k, List.mem_cons_of_mem l hk, hkt⟩
        · rw [if_neg ht] at h
          cases h

/-- A scan that comes to its end is right about the literals that it has not looked at too. -/
lemma assess_of_scan (h : scan v literals = (cache, none)) : v.assess literals = cache := by
  have hcache : (scan v literals).1 = cache := congrArg Prod.fst h
  by_cases ht : cache.status = some true
  · rw [← hcache] at ht
    rw [Valuation.assess_eq_true (exists_true_of_scan ht), ← hcache, scan_of_status_eq_true ht]
  · rw [← hcache, scan_eq (inRange_of_scan h ht)]

lemma evaluateLiterals_append_cons {front back : List Literal} {l : Literal}
    (hfront : ∀ k ∈ front, k.symbol < v.size ∧ v.truth k ≠ some true) (hl : v.size ≤ l.symbol) :
    evaluateLiterals v (front ++ l :: back) = .error (.outOfRange l.symbol) := by
  induction front with
  | nil =>
    have hs : v.symbols[l.symbol]? = none := Array.getElem?_eq_none hl
    rw [List.nil_append, evaluateLiterals, Valuation.evaluate, Valuation.value, Valuation.symbolAt,
      hs]
    rfl
  | cons k front ih =>
    obtain ⟨⟨hk, htruth⟩, hfront⟩ := List.forall_mem_cons.mp hfront
    rw [List.cons_append, evaluateLiterals, Valuation.evaluate_eq hk]
    cases ht : v.truth k with
    | none =>
      rw [ih hfront]
      rfl
    | some b =>
      cases b with
      | true => exact absurd ht htruth
      | false => exact ih hfront

end Literals

section Clause

variable {v : Valuation} {c : Clause} {status : Option Bool} {n : Nat} {l : Literal}

/-- A refresh and an evaluation have the same answer, or fail alike. -/
lemma answer_recompute (v : Valuation) (c : Clause) : answer (c.recompute v) = c.evaluate v := by
  rw [recompute_eq, refresh_eq_scan, evaluate]
  cases hs : scan v c.literals with
  | mk cache fault =>
    cases fault with
    | none =>
      rw [evaluateLiterals_of_scan hs]
      rfl
    | some fault =>
      obtain ⟨l, rfl, hl, front, back, heq, hfront, -⟩ := breaksAt_of_scan hs
      rw [show c.literals = front ++ l :: back from heq, evaluateLiterals_append_cons hfront hl]
      rfl

lemma status_assess_of_evaluate (h : c.evaluate v = .ok status) :
    (v.assess c.literals).status = status := by
  rw [← answer_recompute, recompute_eq, refresh_eq_scan] at h
  cases hs : scan v c.literals with
  | mk cache fault =>
    rw [hs] at h
    cases fault with
    | none =>
      rw [assess_of_scan hs]
      exact Except.ok.inj h
    | some fault => cases h

lemma eq_true_iff_of_evaluate (h : c.evaluate v = .ok status) :
    status = some true ↔ ∃ l ∈ c.literals, v.evaluate l = .ok (some true) := by
  rw [← status_assess_of_evaluate h, Valuation.status_assess_eq_true_iff]
  constructor
  · rintro ⟨l, hl, ht⟩
    obtain ⟨x, hx, -⟩ := Valuation.truth_eq_some_iff.mp ht
    exact ⟨l, hl, by rw [Valuation.evaluate_eq (Valuation.lt_size_of_valueAt hx), ht]⟩
  · rintro ⟨l, hl, ht⟩
    rw [Valuation.evaluate_eq (Valuation.lt_size_of_evaluate ht)] at ht
    exact ⟨l, hl, Except.ok.inj ht⟩

lemma eq_false_iff_of_evaluate (h : c.evaluate v = .ok status) :
    status = some false ↔ ¬ ∃ σ : Assignment, σ.Extends v ∧ c.Holds σ := by
  rw [← status_assess_of_evaluate h]
  constructor
  · rintro hs ⟨σ, hσ, l, hl, hholds⟩
    exact hσ.not_holds (Valuation.status_assess_eq_false_iff.mp hs l hl) hholds
  · intro hnot
    by_contra hs
    exact hnot (Valuation.exists_holds hs)

/-- The place at which an evaluation fails. -/
lemma exists_stopsAt {fault : Fault} (h : c.evaluate v = .error fault) :
    ∃ n l, fault = .outOfRange l.symbol ∧ v.size ≤ l.symbol ∧ StopsAt (evaluate v) c n l := by
  have hrefresh : ∃ d, c.refresh v = .error fault d := by
    rw [← answer_recompute, recompute_eq] at h
    cases hr : c.refresh v with
    | ok status d =>
      rw [hr] at h
      cases h
    | error fault' d =>
      rw [hr] at h
      cases h
      exact ⟨d, rfl⟩
  obtain ⟨d, hd⟩ := hrefresh
  obtain ⟨hfault, -⟩ := refresh_eq_error_iff.mp hd
  obtain ⟨l, rfl, hl, before, back, heq, hbefore, -⟩ := breaksAt_of_scan (Prod.ext rfl hfault)
  have hliterals : c.literals = before ++ l :: back := heq
  refine ⟨before.length, l, rfl, hl, by simp [hliterals], ?_, ?_⟩
  · intro m hm
    have hrange : (c.front m).InRange v.size := by
      rw [InRange, front, hliterals, List.take_append_of_le_length hm]
      exact fun k hk => (hbefore k (List.mem_of_mem_take hk)).1
    exact ⟨_, evaluate_eq hrange⟩
  · intro m hm
    obtain ⟨i, rfl⟩ := Nat.exists_eq_add_of_lt hm
    rw [evaluate, front, hliterals, Nat.add_assoc, List.take_length_add_append, List.take_succ_cons]
    exact evaluateLiterals_append_cons hbefore hl

/-- A refresh and an evaluation give the same answer or stop at the same literal. The answer is true
if a literal is, false if and only if no values for the others make the clause true, and open in
the remaining case; a refresh leaves it in the cache, with the literals that are still open unless
the clause is true. Neither the literals change nor does the earlier cache matter. -/
theorem recompute_agrees (v : Valuation) (c : Clause) :
    ((∃ status,
        c.recompute v = .ok status
          { c with cache :=
            { status, unassigned := if status = some true then [] else c.free v } } ∧
        c.judge v = .ok status ∧
        (status = some true ↔ ∃ l ∈ c.literals, v.evaluate l = .ok (some true)) ∧
        (status = some false ↔ ¬ ∃ σ : Assignment, σ.Extends v ∧ c.Holds σ) ∧
        (status = none ↔ (¬ ∃ l ∈ c.literals, v.evaluate l = .ok (some true)) ∧
          ∃ σ : Assignment, σ.Extends v ∧ c.Holds σ)) ∨
      ∃ n l cache, c.recompute v = .error (.outOfRange l.symbol) { c with cache } ∧
        c.judge v = .error (.outOfRange l.symbol) ∧ v.size ≤ l.symbol ∧
        StopsAt (fun d => answer (d.recompute v)) c n l ∧ StopsAt (judge v) c n l) ∧
      (∀ cache, recompute v { c with cache } = c.recompute v) ∧
      c.recompute v = c.refresh v ∧ c.judge v = c.evaluate v := by
  refine ⟨?_, fun _ => rfl, by rw [recompute_eq], by rw [judge_eq]⟩
  rw [judge_eq, funext (answer_recompute v), recompute_eq]
  cases hr : c.refresh v with
  | ok status d =>
    left
    obtain ⟨-, hstatus, heval, hfree⟩ := refresh_again hr
    obtain ⟨-, -, rfl⟩ := refresh_eq_ok_iff.mp hr
    rw [hstatus] at heval hfree
    have htrue := eq_true_iff_of_evaluate (c := c) heval
    have hfalse := eq_false_iff_of_evaluate (c := c) heval
    refine ⟨status, ?_, heval, htrue, hfalse, ?_⟩
    · congr 2
      exact congrArg₂ Cache.mk hstatus hfree
    · rw [← htrue, ← not_iff_comm.mp hfalse.symm]
      cases status with
      | none => simp
      | some b => cases b <;> simp
  | error fault d =>
    right
    have heval : c.evaluate v = .error fault := by
      rw [← answer_recompute, recompute_eq, hr]
      rfl
    obtain ⟨-, rfl⟩ := refresh_eq_error_iff.mp hr
    obtain ⟨n, l, rfl, hl, hstops⟩ := exists_stopsAt heval
    exact ⟨n, l, _, rfl, heval, hl, hstops, hstops⟩

end Clause

end Clause

end Dpll
