import Dpll.Search.Basic
import Dpll.Proofs.Decision

/-!
What one step of a search does. Each operation on a search over a consistent trail is given by
the state that it leaves behind: `Search.Visited` lists the ways in which looking at a node can
end, `Search.backtrack_eq` and `Search.retry_eq` say how an assignment is taken back. The
invariants of whole runs rest on these alone.
-/

namespace Dpll

namespace Search

/-- The search at a node whose status it knows. -/
def inspected (s : Search) : Search :=
  { s.enter with trail := s.trail.settle }

def forced (l : Literal) (reason : Reason) (s : Search) : Search where
  trail := s.trail.extend ⟨l.symbol, l.sign.satisfying⟩
  pool := s.pool.erase l.symbol
  stats := s.stats.countDecision reason
  log := .force (s.idAt l.symbol) l.sign.satisfying reason :: s.log

def guessed (i : Nat) (s : Search) : Search where
  trail := s.trail.extend ⟨i, true⟩
  pool := s.pool.erase i
  stats := s.stats.countBranch
  log := .branch (s.idAt i) :: s.log

def undone (i : Nat) (s : Search) : Search where
  trail := s.trail.retract i
  pool := s.pool
  stats := s.stats.countBacktrack
  log := .backtrack (s.idAt i) :: s.log

/-- The search after the guess of this symbol, its latest assignment, was turned into false. -/
def retried (i : Nat) (s : Search) : Search where
  trail := (s.trail.retract i).extend ⟨i, false⟩
  pool := s.pool
  stats := s.stats.countBacktrack
  log := .retry (s.idAt i) :: .backtrack (s.idAt i) :: s.log

/-- The ways in which looking at a node can end. -/
inductive Visited (s : Search) : EStateM.Result Fault Search Outcome → Prop
  | verdict {b : Bool} (hne : s.trail.entries ≠ []) (hb : s.trail.standing = some b) :
      Visited s (.ok (.verdict b) s.inspected)
  | falseAtRoot (hnil : s.trail.entries = []) (hb : s.trail.standing = some false) :
      Visited s (.error .staleCaches s.inspected)
  | forced {l : Literal} {reason : Reason} (hopen : s.trail.Undetermined)
      (hc : Decision.choose s.trail.valuation.size s.pool s.trail.settle.undecided =
        .force l reason) (hmem : l.symbol ∈ s.pool) :
      Visited s (.ok (.descend (.forced l.symbol)) (s.inspected.forced l reason))
  | notInPool {l : Literal} {reason : Reason} (hopen : s.trail.Undetermined)
      (hc : Decision.choose s.trail.valuation.size s.pool s.trail.settle.undecided =
        .force l reason) (hmem : l.symbol ∉ s.pool) :
      Visited s (.error (.notInPool (s.idAt l.symbol))
        (s.inspected.count (.countDecision reason)))
  | vacuous (hopen : s.trail.Undetermined) (hpool : s.pool = [])
      (hclauses : s.trail.clauses = []) : Visited s (.ok (.verdict true) s.inspected)
  | clausesRemain (hopen : s.trail.Undetermined) (hpool : s.pool = [])
      (hclauses : s.trail.clauses ≠ []) : Visited s (.error .clausesRemain s.inspected)
  | guessed {i : Nat} {pool : List Nat} (hopen : s.trail.Undetermined)
      (hpool : s.pool = i :: pool) (hlt : i < s.trail.valuation.size)
      (hnone : s.trail.valuation.valueAt i = none) :
      Visited s (.ok (.descend (.tryTrue i)) (s.inspected.guessed i))
  | alreadyAssigned {i : Nat} {pool : List Nat} (hopen : s.trail.Undetermined)
      (hpool : s.pool = i :: pool) (hsome : s.trail.valuation.valueAt i ≠ none) :
      Visited s (.error (.alreadyAssigned (s.idAt i))
        { s.inspected.guessed i with trail := s.trail.settle })
  | outOfRange {i : Nat} {pool : List Nat} (hopen : s.trail.Undetermined)
      (hpool : s.pool = i :: pool) (hle : s.trail.valuation.size ≤ i) :
      Visited s (.error (.outOfRange i) { s.inspected.guessed i with trail := s.trail.settle })

variable {p : Problem} {s : Search}

lemma onTrail_status (h : s.trail.Consistent p) :
    onTrail Trail.status s.enter = .ok (s.trail.verdict s.trail.standing) s.inspected := by
  have heq := h.status_eq
  unfold onTrail
  split
  next hok =>
    change s.trail.status = _ at hok
    rw [heq] at hok
    cases hok
    rfl
  next herror =>
    change s.trail.status = _ at herror
    rw [heq] at herror
    cases herror

lemma assign_cases (frame : Frame) (b : Bool) (s : Search) :
    (frame.symbol < s.trail.valuation.size ∧ s.trail.valuation.valueAt frame.symbol = none ∧
        assign frame b s =
          .ok (.descend frame) { s with trail := s.trail.extend ⟨frame.symbol, b⟩ }) ∨
      (s.trail.valuation.valueAt frame.symbol ≠ none ∧
        assign frame b s = .error (.alreadyAssigned (s.idAt frame.symbol)) s) ∨
      (s.trail.valuation.size ≤ frame.symbol ∧
        assign frame b s = .error (.outOfRange frame.symbol) s) := by
  obtain ⟨hlt, hnone, heq⟩ | ⟨hsome, heq⟩ | ⟨hle, heq⟩ := s.trail.push_cases frame.symbol b
  · left
    exact ⟨hlt, hnone, by simp only [assign, onTrail, heq]⟩
  · right
    left
    exact ⟨hsome, by simp only [assign, onTrail, heq]; rfl⟩
  · right
    right
    exact ⟨hle, by simp only [assign, onTrail, heq]⟩

lemma force_eq {l : Literal} (hlt : l.symbol < s.trail.valuation.size)
    (hnone : s.trail.valuation.valueAt l.symbol = none) (reason : Reason) :
    force l reason s =
      if l.symbol ∈ s.pool then .ok (.descend (.forced l.symbol)) (s.forced l reason)
      else .error (.notInPool (s.idAt l.symbol)) (s.count (.countDecision reason)) := by
  unfold force
  by_cases hmem : l.symbol ∈ s.pool
  · rw [if_pos hmem, if_pos hmem]
    obtain ⟨-, -, heq⟩ | ⟨hsome, -⟩ | ⟨hle, -⟩ := assign_cases (.forced l.symbol)
      l.sign.satisfying (((s.count (.countDecision reason)).take l.symbol).record
        (.force (s.idAt l.symbol) l.sign.satisfying reason))
    · exact heq
    · exact absurd hnone hsome
    · exact absurd hlt (Nat.not_lt_of_le hle)
  · rw [if_neg hmem, if_neg hmem]

lemma branch_nil (hpool : s.pool = []) :
    branch s = if s.trail.clauses = [] then .ok (.verdict true) s else .error .clausesRemain s := by
  simp only [branch, hpool, List.isEmpty_iff]

lemma branch_cons {i : Nat} {pool : List Nat} (hpool : s.pool = i :: pool) :
    (i < s.trail.valuation.size ∧ s.trail.valuation.valueAt i = none ∧
        branch s = .ok (.descend (.tryTrue i)) (s.guessed i)) ∨
      (s.trail.valuation.valueAt i ≠ none ∧
        branch s = .error (.alreadyAssigned (s.idAt i)) { s.guessed i with trail := s.trail }) ∨
      (s.trail.valuation.size ≤ i ∧
        branch s = .error (.outOfRange i) { s.guessed i with trail := s.trail }) := by
  have heq : branch s = assign (.tryTrue i) true
      (((s.take i).count .countBranch).record (.branch (s.idAt i))) := by
    simp only [branch, hpool]
  rw [heq]
  exact assign_cases (.tryTrue i) true
    (((s.take i).count .countBranch).record (.branch (s.idAt i)))

theorem visited_visit (h : s.trail.Consistent p) : Visited s (visit s) := by
  unfold visit
  rw [onTrail_status h]
  by_cases hf : s.trail.standing = some false
  · by_cases hnil : s.trail.entries = []
    · have hv : s.trail.verdict s.trail.standing = none := by
        simp [Trail.verdict, Trail.isEmpty, hnil]
      have hopen : s.inspected.trail.openClauses = .error .staleCaches := by
        have hfresh := h.freshness_settle
        rw [hf] at hfresh
        simp only [inspected, Trail.openClauses, hfresh]
      simp only [hv, hopen]
      exact .falseAtRoot hnil hf
    · have hv : s.trail.verdict s.trail.standing = some false := by
        simp [Trail.verdict, Trail.isEmpty, hnil, hf]
      simp only [hv]
      exact .verdict hnil hf
  · cases hv : s.trail.verdict s.trail.standing with
    | some b =>
      have hne : s.trail.entries ≠ [] := by
        intro hnil
        simp [Trail.verdict, Trail.isEmpty, hnil] at hv
      refine .verdict hne ?_
      simpa [Trail.verdict, Trail.isEmpty, hne] using hv
    | none =>
      have hundet : s.trail.Undetermined := ⟨hf, hv⟩
      have hu := h.upToDate_settle hf
      have hopen : s.inspected.trail.openClauses = .ok s.trail.settle.undecided := hu.openClauses_eq
      simp only [hopen]
      have hsize : s.inspected.trail.valuation.size = s.trail.valuation.size := by
        simp [inspected]
      rw [hsize, show s.inspected.pool = s.pool from rfl]
      cases hc : Decision.choose s.trail.valuation.size s.pool s.trail.settle.undecided with
      | force l reason =>
        obtain ⟨⟨hlt, hnone⟩, -⟩ := h.settle.choose_force hu hc
        rw [← h.settle.size_eq] at hlt
        simp only [force_eq (s := s.inspected) hlt hnone reason]
        split
        next hmem => exact .forced hundet hc hmem
        next hmem =>
          have hid : s.inspected.idAt l.symbol = s.idAt l.symbol := by
            simp [idAt, inspected]
          rw [hid]
          exact .notInPool hundet hc hmem
      | branch =>
        cases hpool : s.pool with
        | nil =>
          simp only [branch_nil (s := s.inspected) hpool]
          split
          next hnil => exact .vacuous hundet hpool (Trail.clauses_settle_eq_nil.mp hnil)
          next hnil => exact .clausesRemain hundet hpool (mt Trail.clauses_settle_eq_nil.mpr hnil)
        | cons i pool =>
          have hvalue : s.inspected.trail.valuation = s.trail.valuation := by
            simp [inspected]
          obtain ⟨hlt, hnone, heq⟩ | ⟨hsome, heq⟩ | ⟨hle, heq⟩ :=
            branch_cons (s := s.inspected) hpool
          · rw [hvalue] at hlt hnone
            simp only [heq]
            exact .guessed hundet hpool hlt hnone
          · rw [hvalue] at hsome
            simp only [heq]
            have hid : s.inspected.idAt i = s.idAt i := by
              simp [idAt, inspected]
            rw [hid]
            exact .alreadyAssigned hundet hpool hsome
          · rw [hvalue] at hle
            simp only [heq]
            exact .outOfRange hundet hpool hle

lemma backtrack_eq {e : Entry} {entries : List Entry} (he : s.trail.entries = e :: entries) :
    backtrack s = .ok () (s.undone e.symbol) := by
  simp only [backtrack, onTrail, Trail.pop_eq he]
  simp [undone, record, count, idAt, Trail.retract]

lemma retry_eq (h : s.trail.Consistent p) {e : Entry} {entries : List Entry}
    (he : s.trail.entries = e :: entries) : retry e.symbol s = .ok () (s.retried e.symbol) := by
  have hlt := h.lt_size (he ▸ List.mem_cons_self)
  have hpush : (s.trail.retract e.symbol).push e.symbol false =
      .ok () ((s.trail.retract e.symbol).extend ⟨e.symbol, false⟩) := by
    apply Trail.push_eq
    · simpa [Trail.retract] using hlt
    · simp [Trail.retract, Valuation.valueAt_set hlt]
  simp only [retry, backtrack_eq he, onTrail]
  have hrecord : ((s.undone e.symbol).record (.retry ((s.undone e.symbol).idAt e.symbol))).trail =
      s.trail.retract e.symbol := rfl
  rw [hrecord, hpush]
  simp [retried, undone, record, idAt, Trail.retract]

end Search

end Dpll
