import Dpll.Proofs.Search.Verdict

/-!
The search as a recursion, without frames. Main statement: a run that nothing stops comes to the
end of the recursion, with the same answer, trail, pool, counts and events. What carries the proof
is that frames below the present ones do not matter before the search above them has its answer.
-/

namespace Dpll

namespace Search

/-- Gives a symbol back and, if the search below it has failed, undoes its assignment. -/
def leave (i : Nat) (satisfiable : Bool) : EStateM Fault Search Bool := do
  modify (release i)
  unless satisfiable do
    backtrack
  return satisfiable

/-- One call of the recursion, which searches `below` its own assignments. -/
def node (below : EStateM Fault Search Bool) : EStateM Fault Search Bool := do
  modify enter
  if let some satisfiable ← onTrail Trail.status then
    return satisfiable
  let s ← get
  match s.trail.openClauses with
  | .error fault => throw fault
  | .ok clauses =>
    match Decision.choose s.trail.valuation.size s.pool clauses with
    | .force l reason =>
      let _ ← force l reason
      leave l.symbol (← below)
    | .branch =>
      match s.pool with
      | [] => if s.trail.clauses.isEmpty then return true else throw .clausesRemain
      | i :: _ =>
        set (((s.take i).count .countBranch).record (.branch (s.idAt i)))
        onTrail (Trail.push i true)
        if ← below then
          return true
        retry i
        leave i (← below)

/-- The recursion to a depth of so many assignments. -/
def exploreTo : Nat → EStateM Fault Search Bool
  | 0 => node (throw .clausesRemain)
  | n + 1 => node (exploreTo n)

/-- The recursion. It cannot go deeper than the pool has symbols. -/
def explore : EStateM Fault Search Bool := fun s =>
  exploreTo s.pool.length s

/-- What a call has still to do once it has made the assignment of this frame. -/
def descend (below : EStateM Fault Search Bool) : Frame → EStateM Fault Search Bool
  | .forced i | .tryFalse i => do leave i (← below)
  | .tryTrue i => do
    if ← below then
      return true
    retry i
    leave i (← below)

lemma bind_apply {ε σ α β : Type} (x : EStateM ε σ α) (f : α → EStateM ε σ β) (s : σ) :
    (x >>= f) s =
      match x s with
      | .ok a s => f a s
      | .error e s => .error e s := rfl

lemma leave_false (i : Nat) (s : Search) :
    leave i false s =
      match backtrack (s.release i) with
      | .error fault s => .error fault s
      | .ok _ s => .ok false s := by
  change (backtrack >>= fun _ => pure false) (s.release i) = _
  rw [bind_apply]
  cases backtrack (s.release i) <;> rfl

lemma branch_eq {i : Nat} {pool : List Nat} {s : Search} (hpool : s.pool = i :: pool) :
    branch s =
      match onTrail (Trail.push i true)
          (((s.take i).count .countBranch).record (.branch (s.idAt i))) with
      | .error fault s => .error fault s
      | .ok _ s => .ok (.descend (.tryTrue i)) s := by
  simp only [branch, hpool]
  rfl

lemma node_eq (below : EStateM Fault Search Bool) (s : Search) :
    node below s =
      match visit s with
      | .error fault s => .error fault s
      | .ok (.verdict satisfiable) s => .ok satisfiable s
      | .ok (.descend frame) s => descend below frame s := by
  unfold visit node
  rw [bind_apply]
  change (onTrail Trail.status >>= _) s.enter = _
  rw [bind_apply]
  cases onTrail Trail.status s.enter with
  | error fault s => rfl
  | ok status s =>
    cases status with
    | some satisfiable => rfl
    | none =>
      change (match s.trail.openClauses with
        | .error fault => throw fault
        | .ok clauses => _ : EStateM Fault Search Bool) s = _
      dsimp only
      cases s.trail.openClauses with
      | error fault => rfl
      | ok clauses =>
        dsimp only
        cases Decision.choose s.trail.valuation.size s.pool clauses with
        | force l reason =>
          dsimp only
          rw [bind_apply]
          cases hforce : force l reason s with
          | error fault s => rfl
          | ok outcome s =>
            obtain ⟨rfl, -⟩ := force_ok hforce
            rfl
        | branch =>
          dsimp only
          cases hpool : s.pool with
          | nil =>
            simp only [branch, hpool]
            by_cases hclauses : s.trail.clauses.isEmpty = true
            · rw [if_pos hclauses, if_pos hclauses]
              rfl
            · rw [if_neg hclauses, if_neg hclauses]
              rfl
          | cons i pool =>
            rw [branch_eq hpool]
            dsimp only
            rw [bind_apply]
            change (onTrail (Trail.push i true) >>= _) _ = _
            rw [bind_apply]
            cases onTrail (Trail.push i true)
              (((s.take i).count .countBranch).record (.branch (s.idAt i))) <;> rfl

/-- The loop of a run that nothing stops, up to its verdict. -/
def complete (frames : List Frame) : EStateM Fault Search Bool := fun s =>
  match _h : advance frames s with
  | .error fault s => .error fault s
  | .ok (.decided satisfiable) s => .ok satisfiable s
  | .ok (.pending frames) s => complete frames s
termination_by s => budget s frames
decreasing_by exact budget_advance _h

/-- Takes a verdict up through the frames, and goes on if there is an alternative. -/
def resume (frames : List Frame) (satisfiable : Bool) : EStateM Fault Search Bool := fun s =>
  match unwind satisfiable frames s with
  | .error fault s => .error fault s
  | .ok none s => .ok satisfiable s
  | .ok (some frames) s => complete frames s

lemma complete_eq (frames : List Frame) (s : Search) :
    complete frames s =
      match advance frames s with
      | .error fault s => .error fault s
      | .ok (.decided satisfiable) s => .ok satisfiable s
      | .ok (.pending frames) s => complete frames s := by
  rw [complete]
  split
  next heq => rw [heq]
  next heq => rw [heq]
  next heq => rw [heq]

lemma complete_visit (frames : List Frame) (s : Search) :
    complete frames s =
      match visit s with
      | .error fault s => .error fault s
      | .ok (.verdict satisfiable) s => resume frames satisfiable s
      | .ok (.descend frame) s => complete (frame :: frames) s := by
  rw [complete_eq]
  unfold advance
  match visit s with
  | .error fault s => rfl
  | .ok (.descend frame) s => rfl
  | .ok (.verdict satisfiable) s =>
    dsimp only [resume]
    match unwind satisfiable frames s with
    | .error fault s => rfl
    | .ok none s => rfl
    | .ok (some frames) s => rfl

theorem complete_induction {P : List Frame → Search → Prop}
    {Q : EStateM.Result Fault Search Bool → Prop}
    (hadvance : ∀ frames s, P frames s → match advance frames s with
      | .error fault s => Q (.error fault s)
      | .ok (.decided satisfiable) s => Q (.ok satisfiable s)
      | .ok (.pending frames) s => P frames s)
    (frames : List Frame) (s : Search) (h : P frames s) : Q (complete frames s) := by
  induction hb : budget s frames using Nat.strongRecOn generalizing frames s with
  | ind n ih =>
    have ha := hadvance frames s h
    rw [complete_eq]
    match heq : advance frames s with
    | .error fault s' =>
      rw [heq] at ha
      exact ha
    | .ok (.decided satisfiable) s' =>
      rw [heq] at ha
      exact ha
    | .ok (.pending frames') s' =>
      rw [heq] at ha
      exact ih _ (hb ▸ budget_advance heq) frames' s' ha rfl

lemma unwind_append (satisfiable : Bool) (upper lower : List Frame) (s : Search) :
    unwind satisfiable (upper ++ lower) s =
      match unwind satisfiable upper s with
      | .error fault s => .error fault s
      | .ok none s => unwind satisfiable lower s
      | .ok (some frames) s => .ok (some (frames ++ lower)) s := by
  induction upper generalizing s with
  | nil => rfl
  | cons frame upper ih =>
    cases satisfiable with
    | true => cases frame <;> simp only [List.cons_append, unwind, if_true, ih]
    | false =>
      cases frame with
      | tryTrue i =>
        simp only [List.cons_append, unwind, Bool.false_eq_true, if_false]
        cases retry i s <;> rfl
      | forced i | tryFalse i =>
        simp only [List.cons_append, unwind, Bool.false_eq_true, if_false]
        cases backtrack (s.release i) with
        | error fault s => rfl
        | ok _ s => exact ih s

/-- Lower frames wait for the verdict of the search above them. -/
theorem complete_append (upper lower : List Frame) (s : Search) :
    complete (upper ++ lower) s =
      match complete upper s with
      | .error fault s => .error fault s
      | .ok satisfiable s => resume lower satisfiable s := by
  symm
  refine complete_induction
    (P := fun frames s₁ => complete (upper ++ lower) s = complete (frames ++ lower) s₁)
    (Q := fun r => (match r with
      | .error fault s => .error fault s
      | .ok satisfiable s => resume lower satisfiable s) = complete (upper ++ lower) s)
    ?_ upper s rfl
  -- Until the upper frames are used up both loops take the same steps.
  intro frames s₁ heq
  rw [heq, complete_visit]
  unfold advance
  match visit s₁ with
  | .error fault s₂ => rfl
  | .ok (.descend frame) s₂ => rfl
  | .ok (.verdict satisfiable) s₂ =>
    dsimp only [resume]
    rw [unwind_append]
    match unwind satisfiable frames s₂ with
    | .error fault s₃ => rfl
    | .ok none s₃ => rfl
    | .ok (some frames') s₃ => rfl

lemma complete_descend (frame : Frame) (s : Search) :
    complete [frame] s = descend (complete []) frame s := by
  have happend : ∀ (frame : Frame) (s : Search), complete [frame] s =
      match complete [] s with
      | .error fault s => .error fault s
      | .ok satisfiable s => resume [frame] satisfiable s :=
    fun frame s => complete_append [] [frame] s
  have hleave : ∀ (i : Nat) (frame : Frame), frame = .forced i ∨ frame = .tryFalse i →
      ∀ s, complete [frame] s = (complete [] >>= leave i) s := by
    intro i frame hframe s
    rw [happend, bind_apply]
    cases complete [] s with
    | error fault s => rfl
    | ok satisfiable s =>
      cases satisfiable with
      | true => obtain rfl | rfl := hframe <;> rfl
      | false =>
        dsimp only
        rw [leave_false]
        obtain rfl | rfl := hframe <;>
        · simp only [resume, unwind, Bool.false_eq_true, if_false]
          cases backtrack (s.release i) <;> rfl
  cases frame with
  | forced i => exact hleave i _ (.inl rfl) s
  | tryFalse i => exact hleave i _ (.inr rfl) s
  | tryTrue i =>
    rw [happend, descend, bind_apply]
    cases complete [] s with
    | error fault s => rfl
    | ok satisfiable s =>
      cases satisfiable with
      | true => rfl
      | false =>
        change _ = (retry i >>= fun _ => complete [] >>= leave i) s
        rw [bind_apply]
        simp only [resume, unwind, Bool.false_eq_true, if_false]
        cases retry i s with
        | error fault s => rfl
        | ok _ s => exact hleave i _ (.inr rfl) s

/-- The loop is a solution of the recursion. -/
theorem complete_nil : complete [] = node (complete []) := by
  funext s
  rw [node_eq, complete_visit]
  match visit s with
  | .error fault s => rfl
  | .ok (.verdict satisfiable) s => rfl
  | .ok (.descend frame) s => exact complete_descend frame s

lemma length_unwind {frames : List Frame} {s s' : Search} {frames' : Option (List Frame)}
    (h : unwind false frames s = .ok frames' s') :
    s'.pool.length + (frames'.getD []).length = s.pool.length + frames.length := by
  induction frames generalizing s with
  | nil =>
    cases h
    rfl
  | cons frame frames ih =>
    cases frame with
    | tryTrue i =>
      simp only [unwind, Bool.false_eq_true, if_false] at h
      split at h
      · cases h
      next h' =>
        cases h
        rw [pool_retry h']
        rfl
    | forced i | tryFalse i =>
      simp only [unwind, Bool.false_eq_true, if_false] at h
      split at h
      · cases h
      next h' =>
        rw [ih h, pool_backtrack h']
        simp only [release, List.length_append, List.length_cons, List.length_nil]
        omega

/-- Symbols pass from the pool to the frames and back, unless the search succeeds. -/
lemma length_advance (frames : List Frame) (s : Search) :
    match advance frames s with
    | .error _ _ | .ok (.decided true) _ => True
    | .ok (.pending frames') s' =>
      s'.pool.length + frames'.length = s.pool.length + frames.length
    | .ok (.decided false) s' => s'.pool.length = s.pool.length + frames.length := by
  unfold advance
  match hv : visit s with
  | .error fault s₁ => trivial
  | .ok (.descend frame) s₁ =>
    have htaken := length_visit hv
    dsimp only
    rw [List.length_cons]
    omega
  | .ok (.verdict true) s₁ =>
    simp only [unwind_true]
  | .ok (.verdict false) s₁ =>
    rw [← pool_visit hv]
    dsimp only
    match hu : unwind false frames s₁ with
    | .error fault s₂ => trivial
    | .ok none s₂ => exact length_unwind hu
    | .ok (some frames') s₂ => exact length_unwind hu

lemma length_complete (frames : List Frame) (s s' : Search)
    (h : complete frames s = .ok false s') :
    s'.pool.length = s.pool.length + frames.length := by
  revert s' h
  refine complete_induction
    (P := fun frames₁ s₁ =>
      s₁.pool.length + frames₁.length = s.pool.length + frames.length)
    (Q := fun r => ∀ s', r = .ok false s' → s'.pool.length = s.pool.length + frames.length)
    ?_ frames s rfl
  intro frames₁ s₁ hlength
  have hadvance := length_advance frames₁ s₁
  generalize advance frames₁ s₁ = r at hadvance
  match r, hadvance with
  | .error fault s₂, _ => nofun
  | .ok (.decided true) s₂, _ => nofun
  | .ok (.decided false) s₂, hs₂ =>
    rintro s' ⟨⟩
    exact hs₂.trans hlength
  | .ok (.pending frames') s₂, hs₂ => exact hs₂.trans hlength

lemma descend_congr {f g : EStateM Fault Search Bool} {n : Nat}
    (hfg : ∀ s : Search, s.pool.length = n → f s = g s)
    (hg : ∀ s s', g s = .ok false s' → s'.pool.length = s.pool.length) (frame : Frame) {s : Search}
    (hs : s.pool.length = n) : descend f frame s = descend g frame s := by
  cases frame with
  | forced i | tryFalse i => simp only [descend, bind_apply, hfg s hs]
  | tryTrue i =>
    simp only [descend, bind_apply, hfg s hs]
    match heq : g s with
    | .error fault s₁ => rfl
    | .ok true s₁ => rfl
    | .ok false s₁ =>
      change (retry i >>= fun _ => f >>= leave i) s₁ = (retry i >>= fun _ => g >>= leave i) s₁
      simp only [bind_apply]
      match hretry : retry i s₁ with
      | .error fault s₂ => rfl
      | .ok _ s₂ =>
        -- A failure has given its symbols back, so the second search is as deep as the first.
        have hs₂ : s₂.pool.length = n := by
          rw [pool_retry hretry, hg s s₁ heq, hs]
        simp only [hfg s₂ hs₂]

lemma node_congr {f g : EStateM Fault Search Bool} {s : Search}
    (h : ∀ frame s', visit s = .ok (.descend frame) s' → descend f frame s' = descend g frame s') :
    node f s = node g s := by
  rw [node_eq, node_eq]
  match hv : visit s with
  | .error fault s' => rfl
  | .ok (.verdict satisfiable) s' => rfl
  | .ok (.descend frame) s' => exact h frame s' hv

lemma exploreTo_eq (n : Nat) (s : Search) (hs : s.pool.length = n) :
    exploreTo n s = complete [] s := by
  have hback : ∀ s s', complete [] s = .ok false s' → s'.pool.length = s.pool.length :=
    fun s s' h => length_complete [] s s' h
  induction n generalizing s with
  | zero =>
    rw [complete_nil, exploreTo]
    apply node_congr
    intro frame s' hv
    have htaken := length_visit hv
    omega
  | succ n ih =>
    rw [complete_nil, exploreTo]
    apply node_congr
    intro frame s' hv
    have htaken := length_visit hv
    exact descend_congr ih hback frame (by omega)

/-- The loop and the recursion are the same, also where they fail. -/
theorem complete_eq_explore : complete [] = explore := by
  funext s
  exact (exploreTo_eq s.pool.length s rfl).symm

/-- The depth limits nothing: the recursion calls itself. -/
theorem explore_eq : explore = node explore := by
  rw [← complete_eq_explore]
  exact complete_nil

lemma solve_unlimited (s : Search) :
    s.solve .unlimited =
      match complete [] { s with log := [] } with
      | .error fault s => .error (.fault fault) s
      | .ok satisfiable s => finish satisfiable s := by
  rw [solve_eq]
  refine advance_induction
    (P := fun frames s₁ => complete [] { s with log := [] } = complete frames s₁)
    (Q := fun r => r = match complete [] { s with log := [] } with
      | .error fault s => .error (.fault fault) s
      | .ok satisfiable s => finish satisfiable s)
    .unlimited ?_ ?_ [] _ rfl
  · intro n _ _ _ hstop
    exact absurd hstop (not_stops_unlimited n)
  · intro frames s₁ heq
    rw [heq, complete_eq]
    match advance frames s₁ with
    | .error fault s₂ => rfl
    | .ok (.pending frames) s₂ => rfl
    | .ok (.decided satisfiable) s₂ => rfl

section Exploring

variable {p : Problem} {base : List Entry} {frames : List Frame} {s : Search}

lemma Exploring.complete (hp : p.Proper) (h : Exploring p base frames s) :
    ∃ b s', complete frames s = .ok b s' ∧ Concluded p base b s' := by
  refine complete_induction (P := Exploring p base)
    (Q := fun r => ∃ b s', r = .ok b s' ∧ Concluded p base b s') ?_ frames s h
  intro frames₁ s₁ h₁
  obtain ⟨frames', s', heq, hs'⟩ | ⟨b, s', heq, hs'⟩ := h₁.advance hp
  · rw [heq]
    exact hs'
  · rw [heq]
    exact ⟨b, s', rfl, hs'⟩

/-- The loop of frames refines the recursion: over any trail, and the symbols without a value in
any order, the recursion returns and a run ends in the state in which it does. -/
theorem solve_eq_explore {t : Trail} {pool : List Nat} (hp : p.Proper) (ht : t.Reached p)
    (hnodup : pool.Nodup)
    (hpool : ∀ i, i ∈ pool ↔ i < p.ids.length ∧ t.valuation.valueAt i = none) (stats : Stats)
    (log : List Event) :
    ∃ b s', explore ⟨t, pool, stats, []⟩ = .ok b s' ∧
      solve .unlimited ⟨t, pool, stats, log⟩ = finish b s' := by
  have hexploring : Exploring p t.entries [] ⟨t, pool, stats, []⟩ :=
    ⟨⟨ht.consistent, .nil⟩, ⟨hnodup, hpool⟩, .inl⟩
  obtain ⟨b, s', heq, -⟩ := hexploring.complete hp
  refine ⟨b, s', ?_, ?_⟩
  · rw [← complete_eq_explore]
    exact heq
  · rw [solve_unlimited]
    simp only [heq]

theorem solve_eq_explore_sample :
    ∃ t b s', Problem.sample.trail.push 1 false = .ok () t ∧
      explore ⟨t, [2, 0], {}, []⟩ = .ok b s' ∧
        solve .unlimited ⟨t, [2, 0], {}, []⟩ = finish b s' := by
  have hpush : Problem.sample.trail.push 1 false =
      .ok () (Problem.sample.trail.extend ⟨1, false⟩) := rfl
  have hpool : ∀ i, i ∈ [2, 0] ↔ i < Problem.sample.ids.length ∧
      (Problem.sample.trail.extend ⟨1, false⟩).valuation.valueAt i = none := by
    intro i
    have hlt : 1 < Problem.sample.trail.valuation.size := by decide
    have hids : Problem.sample.ids.length = 3 := rfl
    have hnone : Problem.sample.trail.valuation.valueAt i = none := Valuation.valueAt_ofIds _ i
    simp only [Trail.extend, Valuation.valueAt_set hlt, hnone, hids, List.mem_cons,
      List.not_mem_nil, or_false]
    by_cases hi : 1 = i
    · simp only [if_pos hi, reduceCtorEq, and_false, iff_false]
      omega
    · simp only [if_neg hi, and_true]
      omega
  obtain ⟨b, s', h⟩ := solve_eq_explore (by decide) (.push .new hpush) (by decide) hpool {} []
  exact ⟨_, b, s', hpush, h⟩

end Exploring

end Search

end Dpll
