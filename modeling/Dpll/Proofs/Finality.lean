import Dpll.Proofs.Calls

/-!
Why a verdict on some of the symbols is one on all. Values that are added change no literal that
has a value already, so a clause or a list of clauses that has come to be true or false remains so.
Main statement: the status of a trail with an entry, where it is known, holds for every assignment
that agrees with the trail and is the status after any further pushes; where it is not known, no
clause alone stands in the way.
-/

namespace Dpll

namespace Valuation

/-- The symbols that have a value in the second have the same value in the first. -/
def Extends (w v : Valuation) : Prop :=
  ∀ i b, v.valueAt i = some b → w.valueAt i = some b

lemma Extends.refl (v : Valuation) : v.Extends v :=
  fun _ _ h => h

lemma Extends.trans {u v w : Valuation} (h : w.Extends v) (h' : v.Extends u) : w.Extends u :=
  fun i b hi => h i b (h' i b hi)

lemma extends_set {v : Valuation} {i : Nat} (hlt : i < v.size) (hnone : v.valueAt i = none)
    (x : Option Bool) : (v.set i x).Extends v := by
  intro j b hj
  have hij : i ≠ j := by
    rintro rfl
    rw [hnone] at hj
    cases hj
  rw [valueAt_set hlt, if_neg hij]
  exact hj

section Extends

variable {v w : Valuation} {b : Bool}

lemma Extends.truth (h : w.Extends v) {l : Literal} (hl : v.truth l = some b) :
    w.truth l = some b := by
  obtain ⟨x, hx, heq⟩ := truth_eq_some_iff.mp hl
  exact truth_eq_some_iff.mpr ⟨x, h _ _ hx, heq⟩

lemma Extends.status_assess (h : w.Extends v) {literals : List Literal}
    (hs : (v.assess literals).status = some b) : (w.assess literals).status = some b := by
  cases b with
  | true =>
    obtain ⟨l, hl, ht⟩ := status_assess_eq_true_iff.mp hs
    exact status_assess_eq_true_iff.mpr ⟨l, hl, h.truth ht⟩
  | false =>
    rw [status_assess_eq_false_iff] at hs ⊢
    exact fun l hl => h.truth (hs l hl)

lemma Extends.status (h : w.Extends v) {clauses : List Clause}
    (hs : v.status clauses = some b) : w.status clauses = some b := by
  cases b with
  | true =>
    rw [status_eq_true_iff] at hs ⊢
    exact fun c hc => h.status_assess (hs c hc)
  | false =>
    obtain ⟨c, hc, hf⟩ := status_eq_false_iff.mp hs
    exact status_eq_false_iff.mpr ⟨c, hc, h.status_assess hf⟩

end Extends

/-- A clause that is not false yet can still be made true. -/
lemma exists_holds {v : Valuation} {c : Clause} (h : (v.assess c.literals).status ≠ some false) :
    ∃ σ : Assignment, σ.Extends v ∧ c.Holds σ := by
  rw [Ne, status_assess_eq_false_iff] at h
  obtain ⟨l, hl, hne⟩ : ∃ l ∈ c.literals, v.truth l ≠ some false := by simpa using h
  have hσ := Assignment.extends_ofValuation v
  cases ht : v.truth l with
  | none =>
    refine ⟨_, hσ.update (truth_eq_none_iff.mp ht) l.sign.satisfying, l, hl, ?_⟩
    exact Function.update_self _ _ _
  | some b =>
    cases b with
    | true => exact ⟨_, hσ, l, hl, hσ.holds ht⟩
    | false => exact absurd ht hne

end Valuation

namespace Trail

variable {p : Problem} {t t' : Trail} {call : Call}

/-- The second trail has come from the first without a pop. -/
structure Grown (t t' : Trail) : Prop where
  valuation : t'.valuation.Extends t.valuation
  entries : t.entries <:+ t'.entries
  literals_eq : t'.clauses.map (·.literals) = t.clauses.map (·.literals)

lemma Grown.refl (t : Trail) : t.Grown t :=
  ⟨.refl _, List.suffix_rfl, rfl⟩

lemma Grown.trans {t'' : Trail} (h : t.Grown t') (h' : t'.Grown t'') : t.Grown t'' :=
  ⟨h'.valuation.trans h.valuation, h.entries.trans h'.entries, h'.literals_eq.trans h.literals_eq⟩

lemma grown_settle (t : Trail) : t.Grown t.settle := by
  refine ⟨?_, ?_, literals_settle t⟩
  · rw [valuation_settle]
    exact .refl _
  · rw [entries_settle]

lemma Consistent.grown_after (h : t.Consistent p) (hcall : call ≠ .pop) :
    t.Grown (t.after call) := by
  have houtcome := t.outcome_after call
  generalize t.after call = t', t.isChanged call = changed at houtcome
  cases houtcome with
  | pushed hlt hnone => exact ⟨Valuation.extends_set hlt hnone _, List.suffix_cons _ _, rfl⟩
  | popped => exact absurd rfl hcall
  | refused => exact .refl t
  | asked =>
    rw [h.status_eq]
    exact t.grown_settle

lemma Reached.afterAll (h : t.Reached p) (calls : List Call) : (t.afterAll calls).Reached p := by
  induction calls with
  | nil => exact h
  | cons call earlier ih => exact ih.after call

lemma Reached.grown_afterAll (h : t.Reached p) {calls : List Call}
    (hcalls : ∀ call ∈ calls, call ≠ .pop) : t.Grown (t.afterAll calls) := by
  induction calls with
  | nil => exact .refl t
  | cons call earlier ih =>
    obtain ⟨hcall, hearlier⟩ := List.forall_mem_cons.mp hcalls
    exact (ih hearlier).trans ((h.afterAll earlier).consistent.grown_after hcall)

/-- Nothing that is added to a trail changes a verdict on it. -/
lemma Grown.standing_eq (h : t.Grown t') {b : Bool} (hb : t.standing = some b) :
    t'.standing = some b := by
  rw [standing, Valuation.status_congr h.literals_eq]
  exact h.valuation.status hb

lemma verdict_of_ne_nil (h : t.entries ≠ []) (status : Option Bool) :
    t.verdict status = status := by
  simp [verdict, isEmpty, h]

/-- The status of a trail with an entry, if it is known, is that of every assignment that agrees
with the trail, and neither pushes nor requests change it. If it is not known, each clause alone
can be made true. -/
theorem status_final (ht : t.Reached p) (hne : t.entries ≠ []) :
    ∃ status t', t.status = .ok status t' ∧
      (status = some true → ∀ σ : Assignment, σ.Agrees t.entries → p.IsModel σ) ∧
      (status = some false → ∀ σ : Assignment, σ.Agrees t.entries → ¬ p.IsModel σ) ∧
      (∀ b, status = some b → ∀ calls : List Call, (∀ call ∈ calls, call ≠ .pop) →
        ∃ t'', (t'.afterAll calls).status = .ok (some b) t'') ∧
      (status = none → ∀ c ∈ p.clauses, ∃ σ : Assignment, σ.Agrees t.entries ∧ c.Holds σ) := by
  have hcons := ht.consistent
  refine ⟨t.standing, t.settle, ?_, ?_, ?_, ?_, ?_⟩
  · rw [hcons.status_eq, verdict_of_ne_nil hne]
  · intro hs σ hσ
    rw [← hcons.isModel_iff]
    exact ((hcons.agrees_iff σ).mp hσ).holds_of_status hs
  · intro hs σ hσ
    rw [← hcons.isModel_iff]
    exact ((hcons.agrees_iff σ).mp hσ).not_forall_holds hs
  · intro b hb calls hcalls
    have hsettled : t.settle.Reached p := ht.status hcons.status_eq
    have hgrown := t.grown_settle.trans (hsettled.grown_afterAll hcalls)
    have hentries : (t.settle.afterAll calls).entries ≠ [] := by
      intro hnil
      have hbase := hgrown.entries
      rw [hnil, List.suffix_nil] at hbase
      exact hne hbase
    refine ⟨(t.settle.afterAll calls).settle, ?_⟩
    rw [(hsettled.afterAll calls).consistent.status_eq, verdict_of_ne_nil hentries,
      hgrown.standing_eq hb]
  · intro hs c hc
    have hopen : (t.valuation.assess c.literals).status ≠ some false := by
      intro hf
      rw [hcons.standing_eq_status, Valuation.status_eq_false_iff.mpr ⟨c, hc, hf⟩] at hs
      cases hs
    obtain ⟨σ, hσ, hholds⟩ := Valuation.exists_holds hopen
    exact ⟨σ, (hcons.agrees_iff σ).mpr hσ, hholds⟩

/-- With 1 and 2 true the second clause is false, and it stays so whatever becomes of 3. -/
theorem status_final_sample :
    ∃ t t', Problem.sample.trail.afterAll [.push 1 true, .push 0 true] = t ∧
      t.status = .ok (some false) t' ∧
      (∀ σ : Assignment, σ.Agrees [⟨1, true⟩, ⟨0, true⟩] → ¬ Problem.sample.IsModel σ) ∧
      ∃ t'', (t'.afterAll [.push 0 false, .status, .push 2 true]).status =
        .ok (some false) t'' := by
  obtain ⟨status, t', hstatus, -, hfalse, hfinal, -⟩ :=
    status_final (reached_afterAll Problem.sample [.push 1 true, .push 0 true]) (by decide)
  have hknown : status = some false := by
    cases hstatus
    rfl
  subst hknown
  exact ⟨_, t', rfl, hstatus, hfalse rfl, hfinal false rfl _ (by decide)⟩

end Trail

end Dpll
