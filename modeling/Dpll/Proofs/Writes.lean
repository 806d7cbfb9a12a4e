import Dpll.Proofs.Calls
import Dpll.Proofs.Clause

/-!
The order in which a trail writes. A refresh begins by calling the clause false and corrects this as
it goes along the literals; a request for the status begins by calling the caches complete and calls
the trail clean at its end. Main statement: a trail that is kept in this way, with a status and two
flags, does what `Trail` does with one value that stands for the three, whatever the calls and
however they end.
-/

namespace Dpll

namespace Clause

/-- Goes along these literals and writes into the cache what it finds. -/
def collect (v : Valuation) : List Literal → EStateM Fault Clause Unit
  | [], c => .ok () c
  | l :: rest, c =>
    match v.evaluate l with
    | .error fault => .error fault c
    | .ok (some true) => .ok () { c with cache := { status := some true } }
    | .ok (some false) => collect v rest c
    | .ok none => collect v rest { c with cache := { unassigned := c.cache.unassigned ++ [l] } }

/-- A refresh in the order of its writes: the clause is false until a literal says otherwise. -/
def recompute (v : Valuation) : EStateM Fault Clause (Option Bool) := fun c =>
  match collect v c.literals { c with cache := { status := some false } } with
  | .error fault c => .error fault c
  | .ok _ c => .ok c.cache.status c

section Recompute

variable {v : Valuation} {literals found : List Literal} {rest : Cache} {c : Clause}

/-- The cache that comes of these literals without a value in front of others, by that of the
others. -/
def behind (found : List Literal) (rest : Cache) : Cache :=
  if rest.status = some true then rest
  else
    { status := if found ++ rest.unassigned = [] then some false else none
      unassigned := found ++ rest.unassigned }

lemma behind_nil (v : Valuation) (literals : List Literal) :
    behind [] (scan v literals).1 = (scan v literals).1 := by
  unfold behind
  split
  · rfl
  next ht =>
    obtain hcache | hstatus := scan_cases v literals
    · rw [hcache] at ht
      exact absurd rfl ht
    · rw [List.nil_append, ← hstatus]

lemma behind_false (hc : c.cache.status = if c.cache.unassigned = [] then some false else none) :
    behind c.cache.unassigned { status := some false } = c.cache := by
  simp only [behind, List.append_nil, ← hc]
  rfl

lemma behind_append {l : Literal} (h : rest.status = some true → rest = { status := some true }) :
    behind (found ++ [l]) rest =
      behind found (if rest.status = some true then { status := some true }
        else { unassigned := l :: rest.unassigned }) := by
  by_cases ht : rest.status = some true
  · rw [if_pos ht, h ht]
    rfl
  · simp [behind, ht]

/-- What is in the cache when the writes have come to these literals stays in front of what they
add. -/
lemma collect_eq (hc : c.cache.status = if c.cache.unassigned = [] then some false else none) :
    collect v literals c =
      match (scan v literals).2 with
      | none => .ok () { c with cache := behind c.cache.unassigned (scan v literals).1 }
      | some fault =>
        .error fault { c with cache := behind c.cache.unassigned (scan v literals).1 } := by
  induction literals generalizing c with
  | nil =>
    rw [collect, scan]
    dsimp only
    rw [behind_false hc]
  | cons l literals ih =>
    unfold collect
    cases hl : v.evaluate l with
    | error fault =>
      rw [scan, hl]
      dsimp only
      rw [behind_false hc]
    | ok x =>
      cases x with
      | some b =>
        rw [scan, hl]
        cases b with
        | true => rfl
        | false => exact ih hc
      | none =>
        rw [scan_cons_none hl]
        dsimp only
        rw [ih (by simp), behind_append scan_of_status_eq_true]

/-- The order of the writes does not show when a refresh is over, whether it has failed or not. -/
theorem recompute_eq (v : Valuation) : recompute v = refresh v := by
  funext c
  rw [recompute, refresh_eq_scan, collect_eq rfl]
  dsimp only
  rw [behind_nil]
  cases (scan v c.literals).2 <;> rfl

end Recompute

end Clause

/-- A trail as it is written field by field. -/
structure FlaggedTrail where
  valuation : Valuation
  clauses : List Clause
  entries : List Entry := []
  /-- The values may have changed since the clauses were last looked at. -/
  dirty : Bool := true
  status : Option Bool := none
  /-- The last sweep has not stopped at a false clause. -/
  cachesComplete : Bool := false
  recomputations : Nat := 0

namespace FlaggedTrail

def new (valuation : Valuation) (clauses : List Clause) : FlaggedTrail :=
  { valuation, clauses }

def push (symbol : Nat) (value : Bool) : EStateM Fault FlaggedTrail Unit := fun k =>
  match k.valuation.symbolAt symbol with
  | .error fault => .error fault k
  | .ok ⟨id, some _⟩ => .error (.alreadyAssigned id) k
  | .ok ⟨_, none⟩ =>
    .ok () { k with
      valuation := k.valuation.set symbol (some value)
      entries := ⟨symbol, value⟩ :: k.entries
      dirty := true }

def pop : EStateM Fault FlaggedTrail Nat := fun k =>
  match k.entries with
  | [] => .error .emptyTrail k
  | ⟨symbol, _⟩ :: entries =>
    .ok symbol { k with
      valuation := k.valuation.set symbol none
      entries
      dirty := true }

/-- Some more clauses have been refreshed, after which the clauses are these. -/
def counted (k : FlaggedTrail) (clauses : List Clause) (refreshed : Nat) : FlaggedTrail :=
  { k with clauses, recomputations := k.recomputations + refreshed }

/-- Goes on with the clauses at the back; those at the front have come to this status. -/
def sweep (front : List Clause) :
    List Clause → Option Bool → EStateM Fault FlaggedTrail (Option Bool)
  | [], status, k => .ok status k
  | c :: back, status, k =>
    match c.recompute k.valuation with
    | .error fault c => .error fault (k.counted (front ++ c :: back) 1)
    | .ok (some true) c => sweep (front ++ [c]) back status (k.counted (front ++ c :: back) 1)
    | .ok (some false) c =>
      .ok (some false) { k.counted (front ++ c :: back) 1 with cachesComplete := false }
    | .ok none c => sweep (front ++ [c]) back none (k.counted (front ++ c :: back) 1)

def refresh : EStateM Fault FlaggedTrail Unit := fun k =>
  match sweep [] k.clauses (some true) { k with cachesComplete := true } with
  | .error fault k => .error fault k
  | .ok status k => .ok () { k with status, dirty := false }

def solveStatus : EStateM Fault FlaggedTrail (Option Bool) := fun k =>
  match if k.dirty then k.refresh else .ok () k with
  | .error fault k => .error fault k
  | .ok _ k => .ok (if k.entries.isEmpty then none else k.status) k

def openClauses (k : FlaggedTrail) : Except Fault (List Clause) :=
  if !k.dirty && k.cachesComplete then .ok (k.clauses.filter (·.cache.status ≠ some true))
  else .error .staleCaches

/-- The flagged trail that an action leaves behind, whether it succeeds or not. -/
def final {α : Type} : EStateM.Result Fault FlaggedTrail α → FlaggedTrail
  | .ok _ k | .error _ k => k

def after (k : FlaggedTrail) : Call → FlaggedTrail
  | .push i b => final (k.push i b)
  | .pop => final k.pop
  | .status => final k.solveStatus

/-- The flagged trail after these calls, the last of which comes first. -/
def afterAll (k : FlaggedTrail) : List Call → FlaggedTrail
  | [] => k
  | call :: earlier => (k.afterAll earlier).after call

/-- The trail that is kept with the status and the two flags. -/
def trail (k : FlaggedTrail) : Trail where
  valuation := k.valuation
  clauses := k.clauses
  entries := k.entries
  freshness := if k.dirty then .stale else .swept k.status
  recomputations := k.recomputations

/-- What an action comes to for the trail that is kept. -/
def forget {α : Type} : EStateM.Result Fault FlaggedTrail α → EStateM.Result Fault Trail α
  | .ok a k => .ok a k.trail
  | .error fault k => .error fault k.trail

/-- Unless the trail is dirty, its caches are complete if and only if it is not false. -/
def Sound (k : FlaggedTrail) : Prop :=
  k.dirty = false → (k.cachesComplete = true ↔ k.status ≠ some false)

/-- Kept with the status and the flags, the trail answers as it does without. -/
structure Keeps (k : FlaggedTrail) (t : Trail) : Prop where
  trail_eq : k.trail = t
  push_eq : ∀ i b, forget (k.push i b) = t.push i b
  pop_eq : forget k.pop = t.pop
  status_eq : forget k.solveStatus = t.status
  openClauses_eq : k.openClauses = t.openClauses

section Sweep

variable {k : FlaggedTrail} {front back : List Clause} {c d : Clause} {status found : Option Bool}

lemma valuation_counted (k : FlaggedTrail) (clauses : List Clause) (n : Nat) :
    (k.counted clauses n).valuation = k.valuation :=
  rfl

lemma counted_counted (k : FlaggedTrail) (cs ds : List Clause) (m n : Nat) :
    (k.counted cs m).counted ds n = k.counted ds (m + n) := by
  simp only [counted, Nat.add_assoc]

lemma sweep_cons_of_ne_false (hc : c.refresh k.valuation = .ok found d) (hs : status ≠ some false)
    (hfound : found ≠ some false) :
    k.sweep front (c :: back) status =
      sweep (front ++ [d]) back (Sweep.both status found) (k.counted (front ++ d :: back) 1) := by
  rw [sweep, Clause.recompute_eq, hc]
  cases found with
  | none => simp [Sweep.both]
  | some b =>
    cases b with
    | false => exact absurd rfl hfound
    | true => rw [Sweep.both_true hs]

/-- A sweep does with the flags what it does without, and takes back that the caches are complete
if it comes to a false clause. -/
lemma sweep_eq (hk : k.clauses = front ++ back) (hs : status ≠ some false) :
    k.sweep front back status =
      let swept := Sweep.ofClauses k.valuation back
      let k' := k.counted (front ++ swept.clauses) swept.refreshed
      match swept.status with
      | .error fault => .error fault k'
      | .ok rest => .ok (Sweep.both status rest)
          { k' with cachesComplete := k.cachesComplete && decide (rest ≠ some false) } := by
  induction back generalizing k front status with
  | nil => simp [sweep, Sweep.ofClauses, Sweep.both_true hs, counted, ← hk]
  | cons c back ih =>
    cases hc : c.refresh k.valuation with
    | error fault d => rw [sweep, Clause.recompute_eq, hc, Sweep.ofClauses_cons_of_error hc]
    | ok found d =>
      by_cases hfound : found = some false
      · subst hfound
        rw [sweep, Clause.recompute_eq, hc, Sweep.ofClauses_cons_of_false hc]
        simp [Sweep.both]
      · rw [sweep_cons_of_ne_false hc hs hfound, Sweep.ofClauses_cons_of_ne_false hc hfound,
          ih (by simp [counted]) (mt Sweep.both_eq_false_iff.mp hfound)]
        dsimp only
        rw [valuation_counted, counted_counted, List.append_assoc, List.singleton_append,
          Nat.add_comm 1]
        cases (Sweep.ofClauses k.valuation back).status with
        | error fault => rfl
        | ok rest =>
          simp only [Except.map, Sweep.both_assoc, Ne, Sweep.both_eq_false_iff]
          rfl

end Sweep

section Flags

variable {k : FlaggedTrail}

lemma forget_push (k : FlaggedTrail) (i : Nat) (b : Bool) :
    forget (k.push i b) = k.trail.push i b := by
  unfold push Trail.push
  cases hs : k.valuation.symbolAt i with
  | error fault => simp [trail, hs, forget]
  | ok symbol =>
    obtain ⟨id, value⟩ := symbol
    cases value with
    | none => simp [trail, hs, forget]
    | some b => simp [trail, hs, forget]

lemma forget_pop (k : FlaggedTrail) : forget k.pop = k.trail.pop := by
  unfold pop Trail.pop
  cases he : k.entries with
  | nil => simp [trail, he, forget]
  | cons e entries => simp [trail, he, forget]

lemma solveStatus_of_dirty (h : k.dirty = true) :
    k.solveStatus =
      let swept := Sweep.ofClauses k.valuation k.clauses
      let k' := k.counted swept.clauses swept.refreshed
      match swept.status with
      | .error fault => .error fault { k' with cachesComplete := true }
      | .ok status => .ok (if k.entries.isEmpty then none else status)
          { k' with cachesComplete := decide (status ≠ some false), status, dirty := false } := by
  rw [solveStatus, if_pos h, refresh, sweep_eq rfl (by simp)]
  dsimp only
  cases (Sweep.ofClauses k.valuation k.clauses).status with
  | error fault => rfl
  | ok status => rfl

lemma forget_solveStatus (k : FlaggedTrail) : forget k.solveStatus = k.trail.status := by
  cases hk : k.dirty with
  | false => simp [solveStatus, Trail.status, trail, hk, forget, Trail.verdict, Trail.isEmpty]
  | true =>
    rw [solveStatus_of_dirty hk]
    simp only [Trail.status, trail, hk, if_true]
    cases (Sweep.ofClauses k.valuation k.clauses).status with
    | error fault => simp [forget, trail, counted, hk]
    | ok status => simp [forget, trail, counted, Trail.verdict, Trail.isEmpty]

lemma trail_final {α : Type} (result : EStateM.Result Fault FlaggedTrail α) :
    (final result).trail = Trail.final (forget result) := by
  cases result <;> rfl

lemma trail_after (k : FlaggedTrail) (call : Call) : (k.after call).trail = k.trail.after call := by
  cases call with
  | push i b => rw [after, trail_final, forget_push, Trail.after]
  | pop => rw [after, trail_final, forget_pop, Trail.after]
  | status => rw [after, trail_final, forget_solveStatus, Trail.after]

lemma trail_afterAll (k : FlaggedTrail) (calls : List Call) :
    (k.afterAll calls).trail = k.trail.afterAll calls := by
  induction calls with
  | nil => rfl
  | cons call earlier ih => rw [afterAll, Trail.afterAll, trail_after, ih]

lemma sound_of_dirty (h : k.dirty = true) : k.Sound := by
  intro hclean
  rw [h] at hclean
  cases hclean

lemma Sound.after (h : k.Sound) (call : Call) : (k.after call).Sound := by
  cases call with
  | push i b =>
    rw [FlaggedTrail.after, push]
    split
    · exact h
    · exact h
    · exact sound_of_dirty rfl
  | pop =>
    rw [FlaggedTrail.after, pop]
    split
    · exact h
    · exact sound_of_dirty rfl
  | status =>
    rw [FlaggedTrail.after]
    cases hk : k.dirty with
    | false =>
      rw [solveStatus, hk]
      exact h
    | true =>
      rw [solveStatus_of_dirty hk]
      dsimp only
      split
      · exact sound_of_dirty hk
      · exact fun _ => decide_eq_true_iff

lemma Sound.afterAll (h : k.Sound) (calls : List Call) : (k.afterAll calls).Sound := by
  induction calls with
  | nil => exact h
  | cons call earlier ih => exact ih.after call

lemma Sound.openClauses_eq (h : k.Sound) : k.openClauses = k.trail.openClauses := by
  cases hk : k.dirty with
  | true => simp [openClauses, Trail.openClauses, trail, hk]
  | false =>
    have hcomplete := h hk
    by_cases hs : k.status = some false
    · simp [openClauses, Trail.openClauses, trail, hk, hs, hcomplete]
    · have ht : k.trail.openClauses =
          .ok (k.clauses.filter (·.cache.status ≠ some true)) := by
        simp [Trail.openClauses, trail, hk]
      rw [ht, openClauses, hk, hcomplete.mpr hs]
      rfl

/-- The flags tell the freshness of the caches, after any calls. -/
lemma Sound.keeps (h : k.Sound) (calls : List Call) :
    (k.afterAll calls).Keeps (k.trail.afterAll calls) := by
  rw [← trail_afterAll]
  exact ⟨rfl, forget_push _, forget_pop _, forget_solveStatus _,
    (h.afterAll calls).openClauses_eq⟩

/-- A new trail that is kept with the status and the flags answers as it does without, after any
calls. -/
theorem keeps_afterAll (v : Valuation) (clauses : List Clause) (calls : List Call) :
    ((new v clauses).afterAll calls).Keeps ((Trail.new v clauses).afterAll calls) :=
  (sound_of_dirty rfl : (new v clauses).Sound).keeps calls

end Flags

end FlaggedTrail

end Dpll
