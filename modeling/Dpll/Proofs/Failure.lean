import Mathlib
import Dpll.Proofs.Writes
import Dpll.Proofs.Decision

/-!
What a request for the status leaves behind if it fails. A sweep breaks off at a clause with a
literal that has no symbol; it has then written some caches and not others. Main statement: such a
trail is stale, so nothing reads its caches, and it fails at the same clause again for as long as
no value changes; the open clauses are told only after a request that has not failed. All this
holds field by field too, where the caches are called complete all the time. Nothing is asked of
the trail before the request.
-/

namespace Dpll

namespace Sweep

variable {v : Valuation} {clauses : List Clause} {fault : Fault}

/-- The sweep has broken off at the clause at this place, because of this literal: what it has left
of the clauses in front, of the clause and of those behind. -/
def BreaksAt (v : Valuation) (clauses : List Clause) (i : Nat) (l : Literal)
    (swept : List Clause) : Prop :=
  ∃ front c, swept = front ++ c :: clauses.drop (i + 1) ∧ front.length = i ∧
    (∀ d ∈ front, d.IsCurrent v ∧ d.cache.status ≠ some false) ∧ c.BreaksAt v l ∧
    swept.map (·.literals) = clauses.map (·.literals)

lemma BreaksAt.cons {i : Nat} {l : Literal} {swept : List Clause} {c d : Clause}
    (h : BreaksAt v clauses i l swept) (hcurrent : d.IsCurrent v)
    (hfalse : d.cache.status ≠ some false) (hliterals : d.literals = c.literals) :
    BreaksAt v (c :: clauses) (i + 1) l (d :: swept) := by
  obtain ⟨front, b, rfl, rfl, hfront, hb, heq⟩ := h
  refine ⟨d :: front, b, rfl, rfl, List.forall_mem_cons.mpr ⟨⟨hcurrent, hfalse⟩, hfront⟩, hb, ?_⟩
  rw [List.map_cons, List.map_cons, heq, hliterals]

lemma BreaksAt.again {i : Nat} {l : Literal} {swept : List Clause}
    (h : BreaksAt v clauses i l swept) : BreaksAt v swept i l swept := by
  obtain ⟨front, c, rfl, rfl, hfront, hc, -⟩ := h
  exact ⟨front, c, by simp, rfl, hfront, hc, rfl⟩

/-- A sweep would do the same again. -/
lemma ofClauses_again (v : Valuation) (clauses : List Clause) :
    ofClauses v (ofClauses v clauses).clauses = ofClauses v clauses := by
  induction clauses with
  | nil => rfl
  | cons c clauses ih =>
    cases hc : c.refresh v with
    | error fault d =>
      rw [ofClauses_cons_of_error hc]
      exact ofClauses_cons_of_error (Clause.refresh_again_of_error hc).1
    | ok status d =>
      have hd := (Clause.refresh_again hc).1
      by_cases hfalse : status = some false
      · subst hfalse
        rw [ofClauses_cons_of_false hc]
        exact ofClauses_cons_of_false hd
      · rw [ofClauses_cons_of_ne_false hc hfalse]
        dsimp only
        rw [ofClauses_cons_of_ne_false hd hfalse, ih]

lemma breaksAt_of_error (h : (ofClauses v clauses).status = .error fault) :
    ∃ i l, fault = .outOfRange l.symbol ∧ (ofClauses v clauses).refreshed = i + 1 ∧
      BreaksAt v clauses i l (ofClauses v clauses).clauses := by
  induction clauses with
  | nil => cases h
  | cons c clauses ih =>
    cases hc : c.refresh v with
    | error fault' d =>
      rw [ofClauses_cons_of_error hc] at h ⊢
      cases h
      obtain ⟨-, l, hl, hd⟩ := Clause.refresh_again_of_error hc
      have hliterals : d.literals = c.literals := by
        rw [(Clause.refresh_eq_error_iff.mp hc).2]
      exact ⟨0, l, hl, rfl, [], d, rfl, rfl, by simp, hd, by simp [hliterals]⟩
    | ok status d =>
      obtain ⟨-, hstatus, hcurrent⟩ := Clause.refresh_again hc
      have hliterals : d.literals = c.literals := by
        rw [(Clause.refresh_eq_ok_iff.mp hc).2.2]
      -- A false clause ends the sweep without a fault.
      by_cases hfalse : status = some false
      · subst hfalse
        rw [ofClauses_cons_of_false hc] at h
        cases h
      · rw [ofClauses_cons_of_ne_false hc hfalse] at h ⊢
        cases hrest : (ofClauses v clauses).status with
        | ok rest =>
          rw [hrest] at h
          cases h
        | error fault' =>
          rw [hrest] at h
          cases h
          obtain ⟨i, l, hl, hrefreshed, hbreaks⟩ := ih hrest
          exact ⟨i + 1, l, hl, congrArg (· + 1) hrefreshed,
            hbreaks.cons hcurrent (hstatus ▸ hfalse) hliterals⟩

end Sweep

namespace Trail

/-- None of these calls gives a symbol a value or takes it away. -/
def isQuiet (t : Trail) : List Call → Bool
  | [] => true
  | call :: earlier => !(t.afterAll earlier).isChanged call && t.isQuiet earlier

/-- The second trail is what a request leaves of the first if it fails at the clause at this place,
because of this literal. -/
structure FailsAt (t : Trail) (i : Nat) (l : Literal) (t' : Trail) : Prop where
  valuation_eq : t'.valuation = t.valuation
  entries_eq : t'.entries = t.entries
  freshness_eq : t'.freshness = .stale
  recomputations_eq : t'.recomputations = t.recomputations + (i + 1)
  breaksAt : Sweep.BreaksAt t.valuation t.clauses i l t'.clauses

section Failure

variable {t t' : Trail} {fault : Fault} {i : Nat} {l : Literal}

lemma status_eq_error_iff :
    t.status = .error fault t' ↔
      let sweep := Sweep.ofClauses t.valuation t.clauses
      t.freshness = .stale ∧ sweep.status = .error fault ∧ t' = { t with
        clauses := sweep.clauses
        recomputations := t.recomputations + sweep.refreshed } := by
  unfold status
  cases hf : t.freshness with
  | swept status => simp
  | stale =>
    dsimp only
    cases (Sweep.ofClauses t.valuation t.clauses).status with
    | ok status => simp
    | error fault' => simp [eq_comm]

lemma openClauses_of_stale (h : t.freshness = .stale) : t.openClauses = .error .staleCaches := by
  rw [openClauses, h]

lemma failsAt_of_error (h : t.status = .error fault t') :
    ∃ i l, fault = .outOfRange l.symbol ∧ t.FailsAt i l t' := by
  obtain ⟨hstale, hsweep, rfl⟩ := status_eq_error_iff.mp h
  obtain ⟨i, l, hl, hrefreshed, hbreaks⟩ := Sweep.breaksAt_of_error hsweep
  exact ⟨i, l, hl, rfl, rfl, hstale, congrArg _ hrefreshed, hbreaks⟩

/-- A further request changes the count and nothing else. -/
lemma FailsAt.status_again (hfails : t.FailsAt i l t') (h : t.status = .error fault t') (n : Nat) :
    { t' with recomputations := n }.status =
      .error fault { t' with recomputations := n + (i + 1) } := by
  have hcount := hfails.recomputations_eq
  obtain ⟨hstale, hsweep, rfl⟩ := status_eq_error_iff.mp h
  have hrefreshed := Nat.add_left_cancel hcount
  refine status_eq_error_iff.mpr ⟨hstale, ?_⟩
  dsimp only
  rw [Sweep.ofClauses_again, hrefreshed]
  exact ⟨hsweep, rfl⟩

lemma FailsAt.again (hfails : t.FailsAt i l t') (n : Nat) :
    FailsAt { t' with recomputations := n } i l { t' with recomputations := n + (i + 1) } where
  valuation_eq := rfl
  entries_eq := rfl
  freshness_eq := hfails.freshness_eq
  recomputations_eq := rfl
  breaksAt := by
    rw [hfails.valuation_eq]
    exact hfails.breaksAt.again

lemma FailsAt.afterAll_of_isQuiet (hfails : t.FailsAt i l t') (h : t.status = .error fault t')
    {calls : List Call} (hquiet : t'.isQuiet calls = true) :
    ∃ n, t'.afterAll calls = { t' with recomputations := n } := by
  induction calls with
  | nil => exact ⟨t'.recomputations, rfl⟩
  | cons call earlier ih =>
    rw [isQuiet, Bool.and_eq_true, Bool.not_eq_true'] at hquiet
    obtain ⟨n, hn⟩ := ih hquiet.2
    have houtcome := (t'.afterAll earlier).outcome_after call
    rw [hquiet.1, hn] at houtcome
    rw [afterAll, hn]
    by_cases hcall : call = .status
    · subst hcall
      exact ⟨n + (i + 1), by rw [after, hfails.status_again h n, final]⟩
    · exact ⟨n, houtcome.eq_of_refused hcall⟩

/-- A trail that has been stale is no longer so because of a request that has not failed. -/
lemma exists_status_of_freshness (hstale : t.freshness = .stale) {calls : List Call}
    (h : (t.afterAll calls).freshness ≠ .stale) :
    ∃ later earlier, calls = later ++ .status :: earlier ∧
      succeeds (t.afterAll earlier).status = true ∧
      (t.afterAll (.status :: earlier)).isQuiet later = true := by
  induction calls with
  | nil => exact absurd hstale h
  | cons call calls ih =>
    have houtcome := (t.afterAll calls).outcome_after call
    rw [afterAll] at h
    generalize hb : (t.afterAll calls).isChanged call = changed at houtcome
    by_cases hcall : call = .status
    · subst hcall
      cases hs : (t.afterAll calls).status with
      | ok status t' => exact ⟨[], calls, rfl, by rw [hs, succeeds], rfl⟩
      | error fault t' =>
        obtain ⟨-, -, rfl⟩ := status_eq_error_iff.mp hs
        rw [after, hs, final] at h
        exact absurd (status_eq_error_iff.mp hs).1 h
    · cases changed with
      | true => exact absurd houtcome.freshness_eq h
      | false =>
        rw [houtcome.eq_of_refused hcall] at h
        obtain ⟨later, earlier, rfl, hsucceeds, hquiet⟩ := ih h
        refine ⟨call :: later, earlier, rfl, hsucceeds, ?_⟩
        rw [isQuiet, ← afterAll_append, hb, hquiet]
        rfl

end Failure

end Trail

/-- Of a trail that is kept with the status and the flags, a request that fails leaves the caches
complete by their flag, and the trail dirty. -/
lemma FlaggedTrail.exists_of_status {k : FlaggedTrail} {t : Trail} {fault : Fault}
    (h : k.trail.status = .error fault t) :
    ∃ k', k.solveStatus = .error fault k' ∧ k'.trail = t ∧ k'.dirty = true ∧
      k'.cachesComplete = true := by
  obtain ⟨hstale, hsweep, -⟩ := Trail.status_eq_error_iff.mp h
  have hdirty : k.dirty = true := by
    by_contra hclean
    simp [trail, hclean] at hstale
  have hk : k.solveStatus = .error fault { k.counted (Sweep.ofClauses k.valuation k.clauses).clauses
      (Sweep.ofClauses k.valuation k.clauses).refreshed with cachesComplete := true } := by
    rw [solveStatus_of_dirty hdirty]
    dsimp only
    rw [show (Sweep.ofClauses k.valuation k.clauses).status = .error fault from hsweep]
  rw [← forget_solveStatus, hk] at h
  exact ⟨_, hk, (EStateM.Result.error.inj h).2, hdirty, rfl⟩

namespace Trail

/-- A request for the status that fails has met a literal without a symbol. The caches in front of
its clause are current, those behind are as they were, and that of the clause covers the literals
in front. The trail remains stale: as long as no value changes, its open clauses are not told and
every further request fails at the same place; after a change they are told only after a request
that has not failed. Written field by field, the request leaves the caches complete by their flag,
and no call ever shows it. -/
theorem status_failed {t t' : Trail} {fault : Fault} (h : t.status = .error fault t') :
    ∃ i l, fault = .outOfRange l.symbol ∧ t.FailsAt i l t' ∧
      (∀ calls, t'.isQuiet calls = true →
        (t'.afterAll calls).openClauses = .error .staleCaches ∧
        ∃ t'', (t'.afterAll calls).status = .error fault t'' ∧
          (t'.afterAll calls).FailsAt i l t'' ∧ t''.clauses = t'.clauses) ∧
      (∀ calls clauses, (t'.afterAll calls).openClauses = .ok clauses →
        ∃ later earlier, calls = later ++ .status :: earlier ∧
          succeeds (t'.afterAll earlier).status = true ∧
          (t'.afterAll (.status :: earlier)).isQuiet later = true) ∧
      ∀ k : FlaggedTrail, k.trail = t → ∃ k', k.solveStatus = .error fault k' ∧
        k'.cachesComplete = true ∧ ∀ calls, (k'.afterAll calls).Keeps (t'.afterAll calls) := by
  obtain ⟨i, l, hl, hfails⟩ := failsAt_of_error h
  refine ⟨i, l, hl, hfails, ?_, ?_, ?_⟩
  · intro calls hquiet
    obtain ⟨n, hn⟩ := hfails.afterAll_of_isQuiet h hquiet
    rw [hn]
    exact ⟨openClauses_of_stale hfails.freshness_eq, _, hfails.status_again h n, hfails.again n,
      rfl⟩
  · intro calls clauses htold
    apply exists_status_of_freshness hfails.freshness_eq
    intro hstale
    rw [openClauses_of_stale hstale] at htold
    cases htold
  · rintro k rfl
    obtain ⟨k', hk, rfl, hdirty, hcomplete⟩ := FlaggedTrail.exists_of_status h
    exact ⟨k', hk, hcomplete, (FlaggedTrail.sound_of_dirty hdirty).keeps⟩

/-- Of three clauses the second has a literal without a symbol, behind one without a value. The
third, which is false, is not looked at, neither now nor after a refused push. -/
theorem status_failed_sample :
    ∃ t t' : Trail, ∃ k k' : FlaggedTrail,
      (Trail.new (.ofIds [1, 2, 3]) [{ literals := [.pack 0 .positive] },
        { literals := [.pack 1 .positive, .pack 5 .negative] },
        { literals := [.pack 0 .negative] }]).after (.push 0 true) = t ∧
      t.status = .error (.outOfRange 5) t' ∧
      t'.clauses.map (·.cache) =
        [{ status := some true }, { unassigned := [.pack 1 .positive] }, {}] ∧
      (t'.afterAll [.push 0 false, .status]).openClauses = .error .staleCaches ∧
      (∃ t'', (t'.afterAll [.push 0 false, .status]).status = .error (.outOfRange 5) t'' ∧
        t''.clauses = t'.clauses) ∧
      k.trail = t ∧ k.solveStatus = .error (.outOfRange 5) k' ∧ k'.cachesComplete = true ∧
      (k'.afterAll [.push 0 false, .status]).openClauses = .error .staleCaches := by
  obtain ⟨i, l, -, -, hquiet, -, hflags⟩ := status_failed (t := (Trail.new (.ofIds [1, 2, 3])
    [{ literals := [.pack 0 .positive] }, { literals := [.pack 1 .positive, .pack 5 .negative] },
      { literals := [.pack 0 .negative] }]).after (.push 0 true)) rfl
  obtain ⟨hstale, t'', hstatus, -, hclauses⟩ := hquiet [.push 0 false, .status] (by decide)
  obtain ⟨k', hk, hcomplete, hkeeps⟩ := hflags ((FlaggedTrail.new (.ofIds [1, 2, 3])
    [{ literals := [.pack 0 .positive] }, { literals := [.pack 1 .positive, .pack 5 .negative] },
      { literals := [.pack 0 .negative] }]).after (.push 0 true)) rfl
  exact ⟨_, _, _, k', rfl, rfl, by decide, hstale, ⟨t'', hstatus, hclauses⟩, rfl, hk, hcomplete,
    (hkeeps _).openClauses_eq.trans hstale⟩

end Trail

end Dpll
