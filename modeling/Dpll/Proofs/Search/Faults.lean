import Dpll.Proofs.Search.Resumption

/-!
The faults that a search can meet. A new search lists every symbol in its pool, also those that had
a value before it began, and may come to branch on one of these. Main statement: over an empty
trail a search fails only at its first node, and exactly if a clause is empty; over any other it
fails where it branches on such a symbol or where all its own assignments are undone.
-/

namespace Dpll

namespace Search

/-- The pool lists symbols, each once: all that have no value and none of those of the frames. -/
structure Stocked (p : Problem) (frames : List Frame) (s : Search) : Prop where
  nodup : s.pool.Nodup
  lt : ∀ i ∈ s.pool, i < p.ids.length
  free : ∀ i < p.ids.length, s.trail.valuation.valueAt i = none → i ∈ s.pool
  apart : ∀ frame ∈ frames, frame.symbol ∉ s.pool

/-- The search has just branched on a symbol that has a value by one of these entries. -/
def Clashed (base : List Entry) (f : Fault) (s : Search) : Prop :=
  ∃ e ∈ base, f = .alreadyAssigned (s.idAt e.symbol) ∧
    s.log.head? = some (.branch (s.idAt e.symbol))

/-- A run never answers that there is no solution, and it has only these two ways to fail. -/
def Accounted (base : List Entry) (r : EStateM.Result Stop Search Solution) : Prop :=
  (∀ s, r ≠ .ok .unsat s) ∧
    ∀ f s, r = .error (.fault f) s → f = .trailNotEmpty ∨ Clashed base f s

/-- The fault that ended a run, if one did. -/
def fault? : EStateM.Result Stop Search Solution → Option Fault
  | .error (.fault f) _ => some f
  | _ => none

lemma eq_error_of_fault? {r : EStateM.Result Stop Search Solution} {f : Fault}
    (h : fault? r = some f) : ∃ s, r = .error (.fault f) s := by
  cases r with
  | ok _ _ => cases h
  | error stop s =>
    cases stop with
    | interrupted n => cases h
    | fault f' =>
      cases h
      exact ⟨s, rfl⟩

section Stocked

variable {p : Problem} {base : List Entry} {frames : List Frame} {frame : Frame} {s s' : Search}

lemma stocked_new (t : Trail) (h : t.Consistent p) : Stocked p [] (new t) where
  nodup := List.nodup_range
  lt := by
    intro i hi
    rw [← h.size_eq]
    exact List.mem_range.mp hi
  free := by
    intro i hi _
    rw [← h.size_eq] at hi
    exact List.mem_range.mpr hi
  apart := by simp

lemma Stocked.take (h : Stocked p frames s) (hlt : frame.symbol < s.trail.valuation.size)
    {b : Bool} (hpool : s'.pool = s.pool.erase frame.symbol)
    (htrail : s'.trail.valuation = s.trail.valuation.set frame.symbol (some b)) :
    Stocked p (frame :: frames) s' where
  nodup := by
    rw [hpool]
    exact h.nodup.erase _
  lt := by
    intro i hi
    rw [hpool] at hi
    exact h.lt i (List.mem_of_mem_erase hi)
  free := by
    intro i hi hnone
    rw [htrail, Valuation.valueAt_set hlt] at hnone
    rw [hpool, h.nodup.mem_erase_iff]
    by_cases hij : frame.symbol = i
    · simp [hij] at hnone
    · rw [if_neg hij] at hnone
      exact ⟨Ne.symm hij, h.free i hi hnone⟩
  apart := by
    rw [hpool, List.forall_mem_cons]
    refine ⟨h.nodup.not_mem_erase, ?_⟩
    intro other hother hmem
    exact h.apart other hother (List.mem_of_mem_erase hmem)

lemma Underway.nodup_symbols (h : Underway p base frames s) :
    (frames.map (·.symbol)).Nodup := by
  have hnodup := h.consistent.nodup
  rw [h.stacked.symbols_eq] at hnodup
  exact hnodup.of_append_left

lemma Stocked.giveUp (hu : Underway p base (frame :: frames) s)
    (h : Stocked p (frame :: frames) s) :
    Stocked p frames ((s.release frame.symbol).undone frame.symbol) := by
  obtain ⟨b, hv⟩ := hu.exists_value
  have hlt := Valuation.lt_size_of_valueAt hv
  have hnodup := hu.nodup_symbols
  rw [List.map_cons, List.nodup_cons] at hnodup
  have hpool : ∀ i, i ∈ s.pool ++ [frame.symbol] ↔ i ∈ s.pool ∨ i = frame.symbol := by
    simp
  constructor
  · change (s.pool ++ [frame.symbol]).Nodup
    rw [← List.concat_eq_append, List.nodup_concat]
    exact ⟨h.apart frame List.mem_cons_self, h.nodup⟩
  · intro i hi
    obtain hi | rfl := (hpool i).mp hi
    · exact h.lt i hi
    · rwa [← hu.consistent.size_eq]
  · intro i hi hnone
    refine (hpool i).mpr ?_
    by_cases hij : frame.symbol = i
    · exact .inr hij.symm
    · change (s.trail.valuation.set frame.symbol none).valueAt i = none at hnone
      rw [Valuation.valueAt_set hlt, if_neg hij] at hnone
      exact .inl (h.free i hi hnone)
  · intro other hother hmem
    obtain hmem | heq := (hpool other.symbol).mp hmem
    · exact h.apart other (List.mem_cons_of_mem _ hother) hmem
    · exact hnodup.1 (List.mem_map.mpr ⟨other, hother, heq⟩)

lemma Stocked.turn {i : Nat} (hu : Underway p base (.tryTrue i :: frames) s)
    (h : Stocked p (.tryTrue i :: frames) s) : Stocked p (.tryFalse i :: frames) (s.retried i) where
  nodup := h.nodup
  lt := h.lt
  free j hj hnone := h.free j hj ((hu.valueAt_retried j).mp hnone)
  apart := by
    have hapart := h.apart
    rw [List.forall_mem_cons] at hapart ⊢
    exact hapart

/-- Only a branch on a symbol that had a value from the start fails. -/
lemma Stocked.visit (hbase : base ≠ []) (hu : Underway p base frames s) (h : Stocked p frames s) :
    match visit s with
    | .error f s' => Clashed base f s'
    | .ok (.descend frame) s' => Stocked p (frame :: frames) s'
    | .ok (.verdict _) s' => Stocked p frames s' := by
  have hne : s.trail.entries ≠ [] := by
    intro hnil
    have hsuffix := hu.stacked.suffix
    rw [hnil, List.suffix_nil] at hsuffix
    exact hbase hsuffix
  have hsize := hu.consistent.size_eq
  have hinspected : Stocked p frames s.inspected :=
    ⟨h.nodup, h.lt, (valuation_inspected s).symm ▸ h.free, h.apart⟩
  have hv := visited_visit hu.consistent
  generalize Search.visit s = r at hv
  cases hv with
  | verdict | vacuous => exact hinspected
  | falseAtRoot hnil => exact absurd hnil hne
  | @forced l reason hopen hc hmem =>
    refine hinspected.take (b := l.sign.satisfying) ?_ rfl rfl
    rw [valuation_inspected, hsize]
    exact h.lt _ hmem
  | @notInPool l reason hopen hc hmem =>
    -- A literal that can be forced has no value yet.
    obtain ⟨⟨hlt, hnone⟩, -⟩ :=
      hu.consistent.settle.choose_force (hu.consistent.upToDate_settle hopen.1) hc
    rw [Trail.valuation_settle] at hnone
    exact absurd (h.free _ hlt hnone) hmem
  | clausesRemain hopen hpool hclauses =>
    have htrue := standing_of_pool_nil hu.consistent h.free hpool hopen.1
    rw [hopen.standing_eq hne] at htrue
    cases htrue
  | @guessed i pool hopen hpool hlt hnone =>
    refine hinspected.take (b := true) ?_ rfl rfl
    rwa [valuation_inspected]
  | @alreadyAssigned i pool hopen hpool hsome =>
    have hmem : i ∈ s.pool := by simp [hpool]
    -- The symbol has an entry, and it is none of the frames'.
    have hentry : i ∈ s.trail.entries.map (·.symbol) := by
      by_contra hnot
      exact hsome ((hu.consistent.valueAt_eq_none_iff_not_mem i).mpr hnot)
    rw [hu.stacked.symbols_eq, List.mem_append] at hentry
    obtain hframe | hstart := hentry
    · obtain ⟨frame, hmem', rfl⟩ := List.mem_map.mp hframe
      exact absurd hmem (h.apart frame hmem')
    · obtain ⟨e, he, rfl⟩ := List.mem_map.mp hstart
      exact ⟨e, he, by simp [idAt], by simp [idAt, guessed]⟩
  | @outOfRange i pool hopen hpool hle =>
    have hlt := h.lt i (by simp [hpool])
    omega

lemma Stocked.advance (hbase : base ≠ []) (hu : Underway p base frames s)
    (h : Stocked p frames s) :
    match advance frames s with
    | .error f s' => Clashed base f s'
    | .ok (.pending frames') s' => Stocked p frames' s'
    | .ok (.decided _) _ => True := by
  have hv := hu.visit
  have hstocked := h.visit hbase hu
  unfold Search.advance
  generalize Search.visit s = r at hv hstocked
  match r, hv, hstocked with
  | .error _ _, _, hclash => exact hclash
  | .ok (.descend _) _, _, hs => exact hs
  | .ok (.verdict true) _, _, _ =>
    simp only [unwind_true]
  | .ok (.verdict false) _, ⟨rfl, _⟩, hs =>
    obtain ⟨frames', s', heq, hs'⟩ := unwind_induction (P := Stocked p)
      (fun _ _ _ => Stocked.giveUp) (fun _ _ _ => Stocked.turn) hu.inspected hs
    simp only [heq]
    cases frames' with
    | none => trivial
    | some frames' => exact hs'

end Stocked

section Run

variable {p : Problem} {t : Trail} {s : Search}

/-- An empty clause is false before anything is assigned. -/
lemma standing_of_mem_nil (h : t.Consistent p) (hempty : ∃ c ∈ p.clauses, c.literals = []) :
    t.standing = some false := by
  by_contra hstanding
  have hne : ∀ c ∈ t.clauses, c.literals ≠ [] := by
    intro c hc hnil
    refine hstanding (Valuation.status_eq_false_iff.mpr ⟨c, hc, ?_⟩)
    rw [hnil]
    rfl
  obtain ⟨c, hc, hnil⟩ := hempty
  exact (Clause.forall_congr_literals (· ≠ []) h.literals_eq).mp hne c hc hnil

lemma visit_of_standing_false (h : s.trail.Consistent p) (hnil : s.trail.entries = [])
    (hfalse : s.trail.standing = some false) : visit s = .error .staleCaches s.inspected := by
  have hv := visited_visit h
  generalize visit s = r at hv
  cases hv with
  | verdict hne => exact absurd hnil hne
  | falseAtRoot => rfl
  | forced hopen | notInPool hopen | vacuous hopen | clausesRemain hopen | guessed hopen
  | alreadyAssigned hopen | outOfRange hopen => exact absurd hfalse hopen.1

/-- The first node of a search over nothing assigned and an empty clause is its last. -/
lemma solve_of_mem_nil (ht : t.Consistent p) (hnil : t.entries = [])
    (hempty : ∃ c ∈ p.clauses, c.literals = []) :
    (new t).solve .unlimited = .error (.fault .staleCaches) (new t).inspected := by
  have hvisit : visit (new t) = .error .staleCaches (new t).inspected :=
    visit_of_standing_false ht hnil (standing_of_mem_nil ht hempty)
  have hstart : (new t).solve .unlimited = runFrom .unlimited 0 [] (new t) := solve_eq _ _
  rw [hstart, runFrom_eq, turn_of_not_stops (not_stops_unlimited 0)]
  simp only [Search.advance, hvisit]

lemma accounted_solve (ht : t.Consistent p) (hne : t.entries ≠ []) (schedule : Schedule) :
    Accounted t.entries ((new t).solve schedule) := by
  rw [solve_eq]
  refine advance_induction
    (P := fun frames s => Underway p t.entries frames s ∧ Stocked p frames s)
    schedule ?_ ?_ [] (new t) ⟨⟨ht, .nil⟩, stocked_new t ht⟩
  · simp [Accounted]
  · rintro frames s ⟨hu, hs⟩
    have hunder := hu.advance
    have hstocked := hs.advance hne hu
    generalize advance frames s = r at hunder hstocked
    match r, hunder, hstocked with
    | .error _ _, _, hclash => simp [Accounted, hclash]
    | .ok (.pending _) _, hu', hs' => exact ⟨hu', hs'⟩
    | .ok (.decided true) s', _, _ =>
      change Accounted t.entries (finish true s')
      rw [finish_true]
      simp [Accounted, Solution.ofValuation]
    | .ok (.decided false) s', ⟨_, hbase⟩, _ =>
      change Accounted t.entries (finish false s')
      rw [finish_false_of_ne_nil (hbase ▸ hne)]
      simp [Accounted]

/-- What can make a search fail over a trail that was made by hand. -/
theorem solve_faults (ht : t.Reached p) :
    (t.entries = [] →
      ((∃ f s', (new t).solve .unlimited = .error (.fault f) s') ↔
        ∃ c ∈ p.clauses, c.literals = []) ∧
      ∀ f s', (new t).solve .unlimited = .error (.fault f) s' →
        f = .staleCaches ∧ s'.events = [.visit 1 none] ∧ s'.stats = { nodes := 1 } ∧
          s'.trail.entries = [] ∧ s'.pool = (new t).pool) ∧
      (t.entries ≠ [] →
        (∀ s', (new t).solve .unlimited ≠ .ok .unsat s') ∧
        ∀ f s', (new t).solve .unlimited = .error (.fault f) s' →
          f = .trailNotEmpty ∨ Clashed t.entries f s') := by
  constructor
  · intro hnil
    by_cases hempty : ∃ c ∈ p.clauses, c.literals = []
    · rw [solve_of_mem_nil ht.consistent hnil hempty]
      refine ⟨⟨fun _ => hempty, fun _ => ⟨_, _, rfl⟩⟩, ?_⟩
      rintro f s' hsolve
      cases hsolve
      refine ⟨rfl, ?_, rfl, ?_, rfl⟩
      · simp [events, inspected, enter, record, count, new, Trail.mostRecent, hnil]
      · simpa [new] using hnil
    · have hp : p.Proper := by
        intro c hc hl
        exact hempty ⟨c, hc, hl⟩
      have hfault : ∀ f s', (new t).solve .unlimited ≠ .error (.fault f) s' := by
        intro f s' hsolve
        have hended := ended_solve hp (ready_new ht.consistent hnil) .unlimited
        rw [hsolve] at hended
        cases hended with
        | notEmpty _ _ hne => exact hne hnil
      constructor
      · constructor
        · rintro ⟨f, s', hsolve⟩
          exact absurd hsolve (hfault f s')
        · intro h
          exact absurd h hempty
      · intro f s' hsolve
        exact absurd hsolve (hfault f s')
  · intro hne
    exact accounted_solve ht.consistent hne .unlimited

/-- An empty clause at the first node, and a branch on 1 where that was false from the start. -/
theorem solve_faults_sample :
    (∃ (p : Problem) (s : Search),
      (new p.trail).solve .unlimited = .error (.fault .staleCaches) s ∧ s.stats.nodes = 1) ∧
      ∃ t s, Problem.sample.trail.push 0 false = .ok () t ∧
        (new t).solve .unlimited = .error (.fault (.alreadyAssigned 1)) s ∧
        Clashed t.entries (.alreadyAssigned 1) s := by
  constructor
  · let p : Problem := ⟨[], [{ literals := [] }], by decide⟩
    have h := (solve_faults (p := p) .new).1 rfl
    obtain ⟨f, s, hsolve⟩ := h.1.mpr ⟨{ literals := [] }, by simp [p], rfl⟩
    obtain ⟨rfl, -, hstats, -⟩ := h.2 f s hsolve
    exact ⟨p, s, hsolve, by rw [hstats]⟩
  · have hpush : Problem.sample.trail.push 0 false =
        .ok () (Problem.sample.trail.extend ⟨0, false⟩) := rfl
    have hfault : fault? ((new (Problem.sample.trail.extend ⟨0, false⟩)).solve .unlimited) =
        some (.alreadyAssigned 1) := by
      rw [solve_eq, runFrom_eq]
      cbv
    obtain ⟨s, hsolve⟩ := eq_error_of_fault? hfault
    have h := (solve_faults (.push .new hpush)).2 (by simp [Trail.extend])
    obtain hempty | hclash := h.2 _ s hsolve
    · cases hempty
    · exact ⟨_, s, hpush, hsolve, hclash⟩

end Run

end Search

end Dpll
