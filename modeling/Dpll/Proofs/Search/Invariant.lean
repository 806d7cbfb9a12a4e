import Dpll.Proofs.Search.Step

/-!
What a search keeps in step. The frames of a search stand for the entries on top of those with
which it began, the pool lists the symbols without a value, and a solution that the entries of the
beginning allow is allowed by the present ones or lies behind a guess that can still be turned.
Main statement: a step keeps all of this, and it ends the search only with a satisfied trail or
with the entries of the beginning and no solution.
-/

namespace Dpll

namespace Frame

/-- Whether the frame is a guess of true that can still be turned. -/
def isGuess : Frame → Bool
  | tryTrue _ => true
  | forced _ | tryFalse _ => false

@[simp] lemma isGuess_tryTrue (i : Nat) : (tryTrue i).isGuess = true := rfl

@[simp] lemma isGuess_forced (i : Nat) : (forced i).isGuess = false := rfl

@[simp] lemma isGuess_tryFalse (i : Nat) : (tryFalse i).isGuess = false := rfl

end Frame

namespace Search

/-- The entries are one for each of these frames, on top of others. -/
inductive Stacked (base : List Entry) : List Frame → List Entry → Prop
  | nil : Stacked base [] base
  | forced {i : Nat} {b : Bool} {frames : List Frame} {entries : List Entry} :
      Stacked base frames entries → Stacked base (.forced i :: frames) (⟨i, b⟩ :: entries)
  | tryTrue {i : Nat} {frames : List Frame} {entries : List Entry} :
      Stacked base frames entries → Stacked base (.tryTrue i :: frames) (⟨i, true⟩ :: entries)
  | tryFalse {i : Nat} {frames : List Frame} {entries : List Entry} :
      Stacked base frames entries → Stacked base (.tryFalse i :: frames) (⟨i, false⟩ :: entries)

lemma Stacked.suffix {base entries : List Entry} {frames : List Frame}
    (h : Stacked base frames entries) : base <:+ entries := by
  induction h with
  | nil => exact List.suffix_rfl
  | forced _ ih => exact ih.trans (List.suffix_cons _ _)
  | tryTrue _ ih => exact ih.trans (List.suffix_cons _ _)
  | tryFalse _ ih => exact ih.trans (List.suffix_cons _ _)

lemma Stacked.of_cons {base entries : List Entry} {frame : Frame} {frames : List Frame}
    (h : Stacked base (frame :: frames) entries) :
    ∃ b rest, entries = ⟨frame.symbol, b⟩ :: rest ∧ Stacked base frames rest := by
  cases h with
  | forced h => exact ⟨_, _, rfl, h⟩
  | tryTrue h => exact ⟨_, _, rfl, h⟩
  | tryFalse h => exact ⟨_, _, rfl, h⟩

lemma Stacked.symbols_eq {base entries : List Entry} {frames : List Frame}
    (h : Stacked base frames entries) :
    entries.map (·.symbol) = frames.map (·.symbol) ++ base.map (·.symbol) := by
  induction h with
  | nil => rfl
  | forced _ ih | tryTrue _ ih | tryFalse _ ih =>
    rw [List.map_cons, ih]
    rfl

/-- A solution lies behind one of the guesses of true. -/
def Alternative (p : Problem) : List Frame → List Entry → Prop
  | .tryTrue i :: frames, _ :: entries =>
    p.Solvable (⟨i, false⟩ :: entries) ∨ Alternative p frames entries
  | _ :: frames, _ :: entries => Alternative p frames entries
  | _, _ => False

/-- The pool lists the symbols without a value. -/
structure Pooled (p : Problem) (s : Search) : Prop where
  nodup : s.pool.Nodup
  mem_iff : ∀ i, i ∈ s.pool ↔ i < p.ids.length ∧ s.trail.valuation.valueAt i = none

/-- A search that may start, or go on where a run was interrupted. -/
structure Ready (p : Problem) (s : Search) : Prop where
  consistent : s.trail.Consistent p
  pooled : s.Pooled p

/-- A search that has found a solution. -/
structure Solved (p : Problem) (s : Search) : Prop where
  consistent : s.trail.Consistent p
  freshness : s.trail.freshness = .swept (some true)
  root : s.trail.entries = [] → s.pool = [] ∧ s.trail.clauses = []

section Pool

variable {p : Problem} {s : Search}

lemma Pooled.take (h : s.Pooled p) {i : Nat} (hlt : i < s.trail.valuation.size) (b : Bool)
    {s' : Search} (hpool : s'.pool = s.pool.erase i)
    (htrail : s'.trail.valuation = s.trail.valuation.set i (some b)) : s'.Pooled p where
  nodup := by
    rw [hpool]
    exact h.nodup.erase i
  mem_iff := by
    intro j
    rw [hpool, htrail, h.nodup.mem_erase_iff, h.mem_iff, Valuation.valueAt_set hlt]
    by_cases hij : i = j
    · simp [hij]
    · simp [hij, Ne.symm hij]

lemma Pooled.release (h : s.Pooled p) {i : Nat} {b : Bool}
    (hi : s.trail.valuation.valueAt i = some b) (hlt : i < p.ids.length) {s' : Search}
    (hpool : s'.pool = s.pool ++ [i])
    (htrail : s'.trail.valuation = s.trail.valuation.set i none) : s'.Pooled p where
  nodup := by
    rw [hpool, ← List.concat_eq_append, List.nodup_concat]
    refine ⟨?_, h.nodup⟩
    rw [h.mem_iff, hi]
    simp
  mem_iff := by
    intro j
    rw [hpool, htrail, List.mem_append, h.mem_iff, List.mem_singleton,
      Valuation.valueAt_set (Valuation.lt_size_of_valueAt hi)]
    by_cases hij : i = j
    · subst hij
      simp [hlt]
    · simp [hij, Ne.symm hij]

lemma Pooled.congr (h : s.Pooled p) {s' : Search} (hpool : s'.pool = s.pool)
    (hvalue : ∀ j, s'.trail.valuation.valueAt j = none ↔ s.trail.valuation.valueAt j = none) :
    s'.Pooled p where
  nodup := by
    rw [hpool]
    exact h.nodup
  mem_iff := by
    intro j
    rw [hpool, hvalue]
    exact h.mem_iff j

end Pool

structure Underway (p : Problem) (base : List Entry) (frames : List Frame) (s : Search) : Prop where
  consistent : s.trail.Consistent p
  stacked : Stacked base frames s.trail.entries

/-- A search below some frames that has missed no solution. -/
structure Exploring (p : Problem) (base : List Entry) (frames : List Frame) (s : Search) : Prop
    extends Underway p base frames s where
  pooled : s.Pooled p
  covered : p.Solvable base → p.Solvable s.trail.entries ∨ Alternative p frames s.trail.entries

/-- The symbols that frames give back after a success. -/
def released : List Frame → List Nat
  | [] => []
  | .tryTrue _ :: frames => released frames
  | .forced i :: frames | .tryFalse i :: frames => i :: released frames

lemma unwind_true (frames : List Frame) (s : Search) :
    unwind true frames s = .ok none { s with pool := s.pool ++ released frames } := by
  induction frames generalizing s with
  | nil => simp [unwind, released]
  | cons frame frames ih =>
    cases frame with
    | tryTrue i => simp only [unwind, if_true, ih, released]
    | forced i | tryFalse i => simp [unwind, ih, released, release]

section Step

variable {p : Problem} {base : List Entry} {frames : List Frame} {s : Search}

lemma Underway.giveUp {frame : Frame} (h : Underway p base (frame :: frames) s) :
    backtrack (s.release frame.symbol) = .ok () ((s.release frame.symbol).undone frame.symbol) ∧
      Underway p base frames ((s.release frame.symbol).undone frame.symbol) := by
  obtain ⟨b, rest, he, hrest⟩ := h.stacked.of_cons
  have hentries : (s.release frame.symbol).trail.entries = ⟨frame.symbol, b⟩ :: rest := he
  refine ⟨backtrack_eq hentries, h.consistent.retract he, ?_⟩
  change Stacked base frames s.trail.entries.tail
  rw [he]
  exact hrest

lemma Underway.lt_size {frame : Frame} (h : Underway p base (frame :: frames) s) :
    frame.symbol < s.trail.valuation.size := by
  obtain ⟨b, rest, he, -⟩ := h.stacked.of_cons
  have hmem : (⟨frame.symbol, b⟩ : Entry) ∈ s.trail.entries := by simp [he]
  exact h.consistent.lt_size hmem

/-- Without its latest assignment the trail leaves that symbol to be assigned. -/
lemma Underway.retract {frame : Frame} (h : Underway p base (frame :: frames) s) :
    (s.trail.retract frame.symbol).Consistent p ∧
      frame.symbol < (s.trail.retract frame.symbol).valuation.size ∧
      (s.trail.retract frame.symbol).valuation.valueAt frame.symbol = none := by
  obtain ⟨b, rest, he, -⟩ := h.stacked.of_cons
  refine ⟨h.consistent.retract he, ?_, ?_⟩
  · simpa [Trail.retract] using h.lt_size
  · simp [Trail.retract, Valuation.valueAt_set h.lt_size]

lemma Underway.turn {i : Nat} (h : Underway p base (.tryTrue i :: frames) s) :
    retry i s = .ok () (s.retried i) ∧ Underway p base (.tryFalse i :: frames) (s.retried i) := by
  obtain ⟨b, rest, he, hrest⟩ := h.stacked.of_cons
  obtain ⟨hcons, hlt, hnone⟩ := h.retract
  refine ⟨retry_eq h.consistent he, hcons.extend ?_ hnone, ?_⟩
  · rw [← hcons.size_eq]
    exact hlt
  · change Stacked base (.tryFalse i :: frames) (⟨i, false⟩ :: s.trail.entries.tail)
    rw [he]
    exact hrest.tryFalse

lemma Underway.exists_value {frame : Frame} (h : Underway p base (frame :: frames) s) :
    ∃ b, s.trail.valuation.valueAt frame.symbol = some b := by
  obtain ⟨b, rest, he, -⟩ := h.stacked.of_cons
  exact ⟨b, (h.consistent.value_iff frame.symbol b).mpr (by simp [he])⟩

lemma Underway.valueAt_retried {i : Nat} (h : Underway p base (.tryTrue i :: frames) s) (j : Nat) :
    (s.retried i).trail.valuation.valueAt j = none ↔ s.trail.valuation.valueAt j = none := by
  obtain ⟨b, hv⟩ : ∃ b, s.trail.valuation.valueAt i = some b := h.exists_value
  have hlt : i < s.trail.valuation.size := h.lt_size
  have hsize : i < (s.trail.valuation.set i none).size := by simpa using hlt
  change ((s.trail.valuation.set i none).set i (some false)).valueAt j = none ↔ _
  rw [Valuation.valueAt_set hsize, Valuation.valueAt_set hlt]
  by_cases hij : i = j
  · subst hij
    simp [hv]
  · simp [hij]

lemma Underway.pooled_giveUp {frame : Frame} (h : Underway p base (frame :: frames) s)
    (hpool : s.Pooled p) : ((s.release frame.symbol).undone frame.symbol).Pooled p := by
  obtain ⟨b, hv⟩ := h.exists_value
  exact hpool.release hv (h.consistent.size_eq ▸ h.lt_size) rfl rfl

/-- What giving up an assignment keeps holds where a failure comes to a guess that it turns, or
where it has used up all frames. -/
theorem unwind_cases {P : List Frame → Search → Prop}
    (hgive : ∀ frame frames s, frame.isGuess = false → Underway p base (frame :: frames) s →
      P (frame :: frames) s → P frames ((s.release frame.symbol).undone frame.symbol))
    (h : Underway p base frames s) (hP : P frames s) :
    (∃ s', unwind false frames s = .ok none s' ∧ Underway p base [] s' ∧ P [] s') ∨
      ∃ i frames' s', unwind false frames s = .ok (some (.tryFalse i :: frames')) (s'.retried i) ∧
        Underway p base (.tryTrue i :: frames') s' ∧ P (.tryTrue i :: frames') s' := by
  induction frames generalizing s with
  | nil => exact .inl ⟨s, rfl, h, hP⟩
  | cons frame frames ih =>
    cases frame with
    | tryTrue i =>
      obtain ⟨heq, -⟩ := h.turn
      exact .inr ⟨i, frames, s, by simp [unwind, heq], h, hP⟩
    | forced i | tryFalse i =>
      obtain ⟨heq, hs₁⟩ := h.giveUp
      simp only [Frame.symbol] at heq
      simp only [unwind, heq, Bool.false_eq_true, if_false]
      exact ih hs₁ (hgive _ frames s rfl h hP)

/-- What both ways of taking an assignment back keep holds where a failure stops. -/
theorem unwind_induction {P : List Frame → Search → Prop}
    (hgive : ∀ frame frames s, Underway p base (frame :: frames) s → P (frame :: frames) s →
      P frames ((s.release frame.symbol).undone frame.symbol))
    (hturn : ∀ i frames s, Underway p base (.tryTrue i :: frames) s → P (.tryTrue i :: frames) s →
      P (.tryFalse i :: frames) (s.retried i))
    (h : Underway p base frames s) (hP : P frames s) :
    ∃ frames' s', unwind false frames s = .ok frames' s' ∧ P (frames'.getD []) s' := by
  obtain ⟨s', heq, -, hs'⟩ | ⟨i, frames', s', heq, hu, hs'⟩ :=
    unwind_cases (fun frame frames s _ => hgive frame frames s) h hP
  · exact ⟨none, s', heq, hs'⟩
  · exact ⟨some (.tryFalse i :: frames'), s'.retried i, heq, hturn i frames' s' hu hs'⟩

lemma Underway.alternative_giveUp {frame : Frame} (h : Underway p base (frame :: frames) s)
    (hguess : frame.isGuess = false) :
    Alternative p (frame :: frames) s.trail.entries ↔
      Alternative p frames s.trail.entries.tail := by
  obtain ⟨b, rest, he, -⟩ := h.stacked.of_cons
  rw [he, List.tail_cons]
  cases frame with
  | tryTrue i => cases hguess
  | forced i | tryFalse i => rfl

/-- A failure either ends at the guess that it turns or has used up all frames. -/
theorem unwind_false (h : Underway p base frames s) :
    (∃ s', unwind false frames s = .ok none s' ∧ s'.trail.Consistent p ∧
        s'.trail.entries = base ∧ (s.Pooled p → s'.Pooled p) ∧
        ¬ Alternative p frames s.trail.entries) ∨
      ∃ i frames' s', unwind false frames s = .ok (some (.tryFalse i :: frames')) s' ∧
        Underway p base (.tryFalse i :: frames') s' ∧ (s.Pooled p → s'.Pooled p) ∧
        (Alternative p frames s.trail.entries → p.Solvable s'.trail.entries ∨
          Alternative p (.tryFalse i :: frames') s'.trail.entries) := by
  obtain ⟨s', heq, hs', hpool, halt⟩ | ⟨i, frames', s', heq, hs', hpool, halt⟩ :=
    unwind_cases (P := fun frames' s' => (s.Pooled p → s'.Pooled p) ∧
      (Alternative p frames s.trail.entries ↔ Alternative p frames' s'.trail.entries))
      (fun frame frames' s' hguess hu ⟨hpool, halt⟩ =>
        ⟨fun hs => hu.pooled_giveUp (hpool hs), halt.trans (hu.alternative_giveUp hguess)⟩)
      h ⟨id, .rfl⟩
  · refine .inl ⟨s', heq, hs'.consistent, ?_, hpool, ?_⟩
    · cases hs'.stacked with
      | nil => rfl
    · rw [halt]
      simp [Alternative]
  · refine .inr ⟨i, frames', s'.retried i, heq, hs'.turn.2, ?_, ?_⟩
    · exact fun hs => (hpool hs).congr rfl hs'.valueAt_retried
    · obtain ⟨b, rest, he, -⟩ := hs'.stacked.of_cons
      rw [halt, he]
      change _ → p.Solvable (⟨i, false⟩ :: s'.trail.entries.tail) ∨
        Alternative p frames' s'.trail.entries.tail
      rw [he]
      exact id

lemma consistent_inspected (h : s.trail.Consistent p) : s.inspected.trail.Consistent p :=
  h.settle

@[simp] lemma entries_inspected (s : Search) : s.inspected.trail.entries = s.trail.entries := by
  simp [inspected]

@[simp] lemma valuation_inspected (s : Search) :
    s.inspected.trail.valuation = s.trail.valuation := by
  simp [inspected]

/-- A verdict at a node is that of its values. Without any it takes that nothing is left. -/
structure Judged (b : Bool) (s : Search) : Prop where
  standing_eq : s.trail.standing = some b
  root : s.trail.entries = [] → b = true ∧ s.pool = [] ∧ s.trail.clauses = []

lemma judged_of_vacuous (hpool : s.pool = []) (hclauses : s.trail.clauses = []) :
    s.Judged true where
  standing_eq := by
    simp [Trail.standing, Valuation.status_eq_true_iff, hclauses]
  root _ := ⟨rfl, hpool, hclauses⟩

theorem Underway.visit (h : Underway p base frames s) :
    match visit s with
    | .error _ s' => s'.trail.Consistent p ∧ s'.trail.entries = s.trail.entries
    | .ok (.descend frame) s' => Underway p base (frame :: frames) s'
    | .ok (.verdict b) s' => s' = s.inspected ∧ s.Judged b := by
  have hv := visited_visit h.consistent
  generalize Search.visit s = r at hv
  have hsettle := consistent_inspected h.consistent
  cases hv with
  | verdict hne hb => exact ⟨rfl, hb, fun hnil => absurd hnil hne⟩
  | falseAtRoot | notInPool | clausesRemain | alreadyAssigned | outOfRange =>
    exact ⟨hsettle, Trail.entries_settle _⟩
  | vacuous hopen hpool hclauses => exact ⟨rfl, judged_of_vacuous hpool hclauses⟩
  | @forced l reason hopen hc hmem =>
    obtain ⟨⟨hlt, hnone⟩, -⟩ :=
      h.consistent.settle.choose_force (h.consistent.upToDate_settle hopen.1) hc
    refine ⟨hsettle.extend hlt hnone, ?_⟩
    change Stacked base _ (⟨l.symbol, l.sign.satisfying⟩ :: s.trail.settle.entries)
    rw [Trail.entries_settle]
    exact h.stacked.forced
  | @guessed i pool hopen hpool hlt hnone =>
    rw [h.consistent.size_eq] at hlt
    refine ⟨hsettle.extend hlt (by simpa using hnone), ?_⟩
    change Stacked base _ (⟨i, true⟩ :: s.trail.settle.entries)
    rw [Trail.entries_settle]
    exact h.stacked.tryTrue

lemma status_assess_of_root (hp : p.Proper) (h : s.trail.Consistent p)
    (hnil : s.trail.entries = []) {c : Clause} (hc : c ∈ s.trail.clauses) :
    (s.trail.valuation.assess c.literals).status = none := by
  have hnone : ∀ l : Literal, s.trail.valuation.truth l = none := by
    intro l
    rw [Valuation.truth_eq_none_iff, h.valueAt_eq_none_iff, hnil]
    simp
  have hne : c.literals ≠ [] :=
    (Clause.forall_congr_literals (· ≠ []) h.literals_eq).mpr hp c hc
  cases hs : (s.trail.valuation.assess c.literals).status with
  | none => rfl
  | some b =>
    cases b with
    | true =>
      obtain ⟨l, -, hl⟩ := Valuation.status_assess_eq_true_iff.mp hs
      rw [hnone] at hl
      cases hl
    | false =>
      obtain ⟨l, hl⟩ := List.exists_mem_of_ne_nil _ hne
      have hf := Valuation.status_assess_eq_false_iff.mp hs l hl
      rw [hnone] at hf
      cases hf

lemma standing_of_pool_nil (h : s.trail.Consistent p)
    (hfree : ∀ i < p.ids.length, s.trail.valuation.valueAt i = none → i ∈ s.pool)
    (hpool : s.pool = []) (hf : s.trail.standing ≠ some false) :
    s.trail.standing = some true := by
  rw [Trail.standing, Valuation.status_eq_true_iff]
  intro c hc
  cases hs : (s.trail.valuation.assess c.literals).status with
  | some b =>
    cases b with
    | true => rfl
    | false => exact absurd (Valuation.status_eq_false_iff.mpr ⟨c, hc, hs⟩) hf
  | none =>
    obtain ⟨l, hl⟩ := List.exists_mem_of_ne_nil _ (Valuation.unassigned_assess_ne_nil hs)
    rw [Valuation.unassigned_assess (by simp [hs]), List.mem_filter, decide_eq_true_eq,
      Valuation.truth_eq_none_iff] at hl
    have hlt := h.inRange c hc l hl.1
    rw [h.size_eq] at hlt
    have hmem := hfree l.symbol hlt hl.2
    rw [hpool] at hmem
    cases hmem

/-- A search that keeps everything in step cannot fail to look at a node, and goes on to a node
that misses no solution. -/
theorem Exploring.visit (hp : p.Proper) (h : Exploring p base frames s) :
    (∃ b, visit s = .ok (.verdict b) s.inspected ∧ s.Judged b) ∨
      ∃ frame s', visit s = .ok (.descend frame) s' ∧ Exploring p base (frame :: frames) s' := by
  have hv := visited_visit h.consistent
  have hunder := h.toUnderway.visit
  generalize Search.visit s = r at hv hunder
  have hsize := h.consistent.size_eq
  cases hv with
  | verdict hne hb => exact .inl ⟨_, rfl, hunder.2⟩
  | vacuous hopen hpool hclauses => exact .inl ⟨_, rfl, hunder.2⟩
  | falseAtRoot hnil hb =>
    -- Only an empty clause is false before anything is assigned.
    obtain ⟨c, hc, hs⟩ := Valuation.status_eq_false_iff.mp hb
    rw [status_assess_of_root hp h.consistent hnil hc] at hs
    cases hs
  | @notInPool l reason hopen hc hmem =>
    obtain ⟨⟨hlt, hnone⟩, -⟩ :=
      h.consistent.settle.choose_force (h.consistent.upToDate_settle hopen.1) hc
    rw [Trail.valuation_settle] at hnone
    exact absurd ((h.pooled.mem_iff _).mpr ⟨hlt, hnone⟩) hmem
  | clausesRemain hopen hpool hclauses =>
    have ht := standing_of_pool_nil h.consistent
      (fun i hlt hnone => (h.pooled.mem_iff i).mpr ⟨hlt, hnone⟩) hpool hopen.1
    have hnil : s.trail.entries = [] := by
      by_contra hne
      rw [hopen.standing_eq hne] at ht
      cases ht
    obtain ⟨c, hc⟩ := List.exists_mem_of_ne_nil _ hclauses
    have hs := Valuation.status_eq_true_iff.mp ht c hc
    rw [status_assess_of_root hp h.consistent hnil hc] at hs
    cases hs
  | @alreadyAssigned i pool hopen hpool hsome =>
    have hmem := (h.pooled.mem_iff i).mp (by simp [hpool])
    exact absurd hmem.2 hsome
  | @outOfRange i pool hopen hpool hle =>
    have hmem := (h.pooled.mem_iff i).mp (by simp [hpool])
    omega
  | @forced l reason hopen hc hmem =>
    obtain ⟨⟨hlt, hnone⟩, hsolve⟩ :=
      h.consistent.settle.choose_force (h.consistent.upToDate_settle hopen.1) hc
    rw [← hsize] at hlt
    refine .inr ⟨_, _, rfl, hunder, ?_, ?_⟩
    · exact h.pooled.take hlt l.sign.satisfying rfl (by simp [Search.forced, Trail.extend])
    · intro hb
      obtain hs | halt := h.covered hb
      · left
        exact hsolve (by simpa using hs)
      · right
        simpa [Search.forced, Trail.extend, Alternative] using halt
  | @guessed i pool hopen hpool hlt hnone =>
    refine .inr ⟨_, _, rfl, hunder, ?_, ?_⟩
    · exact h.pooled.take hlt true rfl (by simp [Search.guessed, Trail.extend])
    · intro hb
      simp only [Search.guessed, Trail.extend, entries_inspected, Alternative]
      obtain hs | halt := h.covered hb
      · obtain htrue | hfalse := hs.split i
        · exact .inl htrue
        · exact .inr (.inl hfalse)
      · exact .inr (.inr halt)

end Step

end Search

end Dpll
