import Dpll.Proofs.Failure
import Dpll.Proofs.Search.Polls
import Dpll.Proofs.Search.Stepwise

/-!
Searches over symbols with other ids. A search goes by the indices of its symbols; it reads an id
only to name the symbol in its log, in a fault or in its solution. Main statement: a run over
renamed symbols is the same run, with the names in its log renamed, up to the order in which the
solution lists its values. No id has to be told from another for this.
-/

namespace Dpll

namespace Valuation

/-- The same symbols under other ids. -/
def rename (r : Nat → Nat) (v : Valuation) : Valuation :=
  ⟨v.symbols.map fun s => { s with id := r s.id }⟩

section Rename

variable (r : Nat → Nat) (v : Valuation)

@[simp] lemma size_rename : (v.rename r).size = v.size := by
  simp [rename, size]

@[simp] lemma ids_rename : (v.rename r).ids = v.ids.map r := by
  simp [rename, ids, Function.comp_def]

lemma getElem?_rename (i : Nat) :
    (v.rename r).symbols[i]? = v.symbols[i]?.map fun s => { s with id := r s.id } := by
  simp [rename]

@[simp] lemma valueAt_rename (i : Nat) : (v.rename r).valueAt i = v.valueAt i := by
  rw [valueAt, valueAt, getElem?_rename]
  cases v.symbols[i]? <;> rfl

@[simp] lemma evaluate_rename (l : Literal) : (v.rename r).evaluate l = v.evaluate l := by
  unfold evaluate value symbolAt
  rw [getElem?_rename]
  cases v.symbols[l.symbol]? <;> rfl

lemma set_rename (i : Nat) (x : Option Bool) : (v.rename r).set i x = (v.set i x).rename r := by
  simp only [rename, set, mk.injEq]
  apply Array.ext_getElem?
  intro j
  simp only [Array.getElem?_modify, Array.getElem?_map]
  by_cases hij : i = j
  · subst hij
    cases v.symbols[i]? <;> simp
  · simp [hij]

/-- An index without a symbol has the id 0, which must keep its name. -/
lemma idAt_rename {r : Nat → Nat} (hr : r 0 = 0) (v : Valuation) (i : Nat) :
    (v.rename r).idAt i = r (v.idAt i) := by
  rw [idAt, idAt, getElem?_rename]
  cases v.symbols[i]? with
  | none => exact hr.symm
  | some s => rfl

end Rename

lemma rename_congr {r g : Nat → Nat} {v : Valuation} (h : ∀ id ∈ v.ids, r id = g id) :
    v.rename r = v.rename g := by
  rw [rename, rename, mk.injEq]
  apply Array.map_congr_left
  intro s hs
  rw [h s.id (List.mem_map_of_mem (Array.mem_toList_iff.mpr hs))]

lemma rename_ofIds (r : Nat → Nat) (ids : List Nat) :
    (ofIds ids).rename r = ofIds (ids.map r) := by
  simp [rename, ofIds, Function.comp_def]

end Valuation

namespace Fault

def rename (r : Nat → Nat) : Fault → Fault
  | alreadyAssigned id => alreadyAssigned (r id)
  | notInPool id => notInPool (r id)
  | fault => fault

end Fault

namespace Event

def rename (r : Nat → Nat) : Event → Event
  | visit node mostRecent => visit node (mostRecent.map r)
  | force id value reason => force (r id) value reason
  | branch id => branch (r id)
  | backtrack id => backtrack (r id)
  | retry id => retry (r id)
  | interrupted nodes cancelled expired => interrupted nodes cancelled expired
  | finished satisfiable stats => finished satisfiable stats

/-- The ids that an event names. -/
def ids : Event → List Nat
  | visit _ mostRecent => mostRecent.toList
  | force id _ _ | branch id | backtrack id | retry id => [id]
  | interrupted _ _ _ | finished _ _ => []

lemma rename_congr {r g : Nat → Nat} {event : Event} (h : ∀ id ∈ event.ids, r id = g id) :
    event.rename r = event.rename g := by
  cases event with
  | visit node mostRecent =>
    cases mostRecent with
    | none => rfl
    | some id => rw [rename, rename, Option.map_some, Option.map_some, h id List.mem_cons_self]
  | force id | branch id | backtrack id | retry id => rw [rename, rename, h id List.mem_cons_self]
  | interrupted | finished => rfl

end Event

/-- What an action comes to if its state has other names. -/
def renamed {σ α : Type} (r : Nat → Nat) (f : σ → σ) :
    EStateM.Result Fault σ α → EStateM.Result Fault σ α
  | .ok a s => .ok a (f s)
  | .error fault s => .error (fault.rename r) (f s)

lemma Clause.scan_rename (r : Nat → Nat) (v : Valuation) (literals : List Literal) :
    scan (v.rename r) literals = scan v literals := by
  induction literals with
  | nil => rfl
  | cons l literals ih => rw [scan, scan, Valuation.evaluate_rename, ih]

lemma Clause.refresh_rename (r : Nat → Nat) (v : Valuation) :
    refresh (v.rename r) = refresh v := by
  funext c
  rw [refresh, refresh, scan_rename]

lemma Sweep.ofClauses_rename (r : Nat → Nat) (v : Valuation) (clauses : List Clause) :
    ofClauses (v.rename r) clauses = ofClauses v clauses := by
  induction clauses with
  | nil => rfl
  | cons c clauses ih => rw [ofClauses, ofClauses, Clause.refresh_rename, ih]

namespace Trail

def rename (r : Nat → Nat) (t : Trail) : Trail :=
  { t with valuation := t.valuation.rename r }

section Rename

variable (r : Nat → Nat) (t : Trail)

lemma push_rename (i : Nat) (b : Bool) :
    (t.rename r).push i b = renamed r (rename r) (t.push i b) := by
  unfold push Valuation.symbolAt
  rw [show (t.rename r).valuation = t.valuation.rename r from rfl, Valuation.getElem?_rename]
  cases t.valuation.symbols[i]? with
  | none => rfl
  | some s =>
    obtain ⟨id, value⟩ := s
    cases value with
    | some x => rfl
    | none =>
      dsimp only [Option.map_some]
      rw [Valuation.set_rename]
      rfl

lemma pop_rename : (t.rename r).pop = renamed r (rename r) t.pop := by
  unfold pop
  rw [show (t.rename r).entries = t.entries from rfl]
  cases t.entries with
  | nil => rfl
  | cons e entries =>
    dsimp only
    rw [show (t.rename r).valuation = t.valuation.rename r from rfl, Valuation.set_rename]
    rfl

lemma status_rename : (t.rename r).status = renamed r (rename r) t.status := by
  unfold status
  rw [show (t.rename r).freshness = t.freshness from rfl]
  cases t.freshness with
  | swept _ => rfl
  | stale =>
    dsimp only
    rw [show (t.rename r).valuation = t.valuation.rename r from rfl, Sweep.ofClauses_rename,
      show (t.rename r).clauses = t.clauses from rfl]
    cases hs : (Sweep.ofClauses t.valuation t.clauses).status with
    | ok status => rfl
    | error fault =>
      obtain ⟨-, l, rfl, -⟩ := Sweep.breaksAt_of_error hs
      rfl

lemma mostRecent_rename {r : Nat → Nat} (hr : r 0 = 0) (t : Trail) :
    (t.rename r).mostRecent = t.mostRecent.map r := by
  unfold mostRecent
  rw [show (t.rename r).entries = t.entries from rfl]
  cases t.entries with
  | nil => rfl
  | cons e entries => exact congrArg some (Valuation.idAt_rename hr t.valuation e.symbol)

end Rename

end Trail

namespace Search

/-- The search over the same symbols under other ids, by which its log then calls them. -/
def rename (r : Nat → Nat) (s : Search) : Search :=
  { s with
    trail := s.trail.rename r
    log := s.log.map (·.rename r) }

section Step

variable {r : Nat → Nat}

lemma idAt_rename (hr : r 0 = 0) (s : Search) (i : Nat) : (s.rename r).idAt i = r (s.idAt i) :=
  Valuation.idAt_rename hr s.trail.valuation i

lemma enter_rename (hr : r 0 = 0) (s : Search) : (s.rename r).enter = s.enter.rename r := by
  unfold enter
  rw [show (s.rename r).trail = s.trail.rename r from rfl, Trail.mostRecent_rename hr]
  rfl

lemma onTrail_rename {α : Type} {act : EStateM Fault Trail α}
    (hact : ∀ t : Trail, act (t.rename r) = renamed r (Trail.rename r) (act t)) (s : Search) :
    onTrail act (s.rename r) = renamed r (rename r) (onTrail act s) := by
  unfold onTrail
  rw [show (s.rename r).trail = s.trail.rename r from rfl, hact]
  cases act s.trail <;> rfl

lemma assign_rename (frame : Frame) (b : Bool) (s : Search) :
    assign frame b (s.rename r) = renamed r (rename r) (assign frame b s) := by
  unfold assign
  rw [onTrail_rename fun t => Trail.push_rename r t frame.symbol b]
  cases onTrail (Trail.push frame.symbol b) s <;> rfl

lemma force_rename (hr : r 0 = 0) (l : Literal) (reason : Reason) (s : Search) :
    force l reason (s.rename r) = renamed r (rename r) (force l reason s) := by
  unfold force
  rw [show (s.rename r).pool = s.pool from rfl, idAt_rename hr]
  by_cases hmem : l.symbol ∈ s.pool
  · rw [if_pos hmem, if_pos hmem]
    exact assign_rename _ _ (((s.count (.countDecision reason)).take l.symbol).record
      (.force (s.idAt l.symbol) l.sign.satisfying reason))
  · rw [if_neg hmem, if_neg hmem]
    rfl

lemma branch_rename (hr : r 0 = 0) (s : Search) :
    branch (s.rename r) = renamed r (rename r) (branch s) := by
  unfold branch
  rw [show (s.rename r).pool = s.pool from rfl]
  cases s.pool with
  | nil =>
    dsimp only
    rw [show (s.rename r).trail.clauses = s.trail.clauses from rfl]
    by_cases hnil : s.trail.clauses.isEmpty = true
    · rw [if_pos hnil, if_pos hnil]
      rfl
    · rw [if_neg hnil, if_neg hnil]
      rfl
  | cons i pool =>
    dsimp only
    rw [idAt_rename hr]
    exact assign_rename _ _ (((s.take i).count .countBranch).record (.branch (s.idAt i)))

lemma visit_rename (hr : r 0 = 0) (s : Search) :
    visit (s.rename r) = renamed r (rename r) (visit s) := by
  unfold visit
  rw [enter_rename hr, onTrail_rename (Trail.status_rename r)]
  cases onTrail Trail.status s.enter with
  | error fault s' => rfl
  | ok status s' =>
    cases status with
    | some b => rfl
    | none =>
      dsimp only [renamed]
      rw [show (s'.rename r).trail.openClauses = s'.trail.openClauses from rfl]
      cases hopen : s'.trail.openClauses with
      | error fault =>
        cases Trail.eq_staleCaches hopen
        rfl
      | ok clauses =>
        dsimp only
        rw [show (s'.rename r).trail.valuation = s'.trail.valuation.rename r from rfl,
          Valuation.size_rename, show (s'.rename r).pool = s'.pool from rfl]
        cases Decision.choose s'.trail.valuation.size s'.pool clauses with
        | force l reason => exact force_rename hr l reason s'
        | branch => exact branch_rename hr s'

lemma backtrack_rename (hr : r 0 = 0) (s : Search) :
    backtrack (s.rename r) = renamed r (rename r) (backtrack s) := by
  unfold backtrack
  rw [onTrail_rename (Trail.pop_rename r)]
  cases onTrail Trail.pop s with
  | error fault s' => rfl
  | ok i s' =>
    dsimp only [renamed]
    rw [idAt_rename hr]
    rfl

lemma retry_rename (hr : r 0 = 0) (i : Nat) (s : Search) :
    retry i (s.rename r) = renamed r (rename r) (retry i s) := by
  unfold retry
  rw [backtrack_rename hr]
  cases backtrack s with
  | error fault s' => rfl
  | ok _ s' =>
    dsimp only [renamed]
    rw [idAt_rename hr]
    exact onTrail_rename (fun t => Trail.push_rename r t i false) (s'.record (.retry (s'.idAt i)))

lemma unwind_rename (hr : r 0 = 0) (b : Bool) (frames : List Frame) (s : Search) :
    unwind b frames (s.rename r) = renamed r (rename r) (unwind b frames s) := by
  induction frames generalizing s with
  | nil => rfl
  | cons frame frames ih =>
    cases b with
    | true =>
      cases frame with
      | tryTrue i => exact ih s
      | forced i | tryFalse i => exact ih (s.release i)
    | false =>
      cases frame with
      | tryTrue i =>
        simp only [unwind, Bool.false_eq_true, if_false, retry_rename hr]
        cases retry i s <;> rfl
      | forced i | tryFalse i =>
        simp only [unwind, Bool.false_eq_true, if_false]
        rw [show (s.rename r).release i = (s.release i).rename r from rfl, backtrack_rename hr]
        cases backtrack (s.release i) with
        | error fault s' => rfl
        | ok _ s' => exact ih s'

lemma advance_rename (hr : r 0 = 0) (frames : List Frame) (s : Search) :
    advance frames (s.rename r) = renamed r (rename r) (advance frames s) := by
  unfold advance
  rw [visit_rename hr]
  cases visit s with
  | error fault s' => rfl
  | ok outcome s' =>
    cases outcome with
    | descend frame => rfl
    | verdict b =>
      dsimp only [renamed]
      rw [unwind_rename hr]
      cases unwind b frames s' with
      | error fault s'' => rfl
      | ok frames' s'' => cases frames' <;> rfl

end Step

/-- What a run comes to over renamed symbols. A solution lists its values anew, in the order of the
new ids. -/
def renamedRun (r : Nat → Nat) :
    EStateM.Result Stop Search Solution → EStateM.Result Stop Search Solution
  | .ok .unsat s => .ok .unsat (s.rename r)
  | .ok (.sat _) s => .ok (.ofValuation (s.rename r).trail.valuation) (s.rename r)
  | .error (.interrupted nodes) s => .error (.interrupted nodes) (s.rename r)
  | .error (.fault fault) s => .error (.fault (fault.rename r)) (s.rename r)

section Run

variable {r : Nat → Nat}

lemma finish_rename (r : Nat → Nat) (b : Bool) (s : Search) :
    finish b (s.rename r) = renamedRun r (finish b s) := by
  cases b with
  | true => rfl
  | false =>
    by_cases hnil : s.trail.entries = []
    · rw [finish_false_of_nil hnil, finish_false_of_nil (s := s.rename r) hnil]
      rfl
    · rw [finish_false_of_ne_nil hnil, finish_false_of_ne_nil (s := s.rename r) hnil]
      rfl

lemma turn_rename (hr : r 0 = 0) (poll : Poll) (frames : List Frame) (s : Search) :
    turn poll frames (s.rename r) =
      match turn poll frames s with
      | .ended result => .ended (renamedRun r result)
      | .pending frames s => .pending frames (s.rename r) := by
  by_cases hstop : poll.stops = true
  · rw [turn_of_stops hstop, turn_of_stops hstop]
    rfl
  · rw [turn_of_not_stops hstop, turn_of_not_stops hstop, advance_rename hr]
    cases advance frames s with
    | error fault s' => rfl
    | ok progress s' =>
      cases progress with
      | pending frames' => rfl
      | decided b => exact congrArg Turn.ended (finish_rename r b s')

lemma runFrom_rename (hr : r 0 = 0) (schedule : Schedule) (visited : Nat) (frames : List Frame)
    (s : Search) :
    runFrom schedule visited frames (s.rename r) =
      renamedRun r (runFrom schedule visited frames s) := by
  -- The budget falls with every turn that leaves something to do.
  induction hb : budget s frames using Nat.strongRecOn generalizing visited frames s with
  | ind n ih =>
    rw [runFrom_eq, runFrom_eq schedule visited frames s, turn_rename hr]
    cases hturn : turn (schedule visited) frames s with
    | ended result => rfl
    | pending frames' s' =>
      exact ih _ (hb ▸ budget_turn hturn) (visited + 1) frames' s' rfl

end Run

section Named

/-- The log names no other ids than the symbols have. -/
structure Named (p : Problem) (s : Search) : Prop where
  ids_eq : s.trail.valuation.ids = p.ids
  mem_ids : ∀ event ∈ s.log, ∀ id ∈ event.ids, id ∈ p.ids

variable {p : Problem} {base : List Entry} {frames : List Frame} {s s' : Search} {r g : Nat → Nat}

lemma Named.cons (h : s.Named p) (event : Event) (hlog : s'.log = event :: s.log)
    (hevent : ∀ id ∈ event.ids, id ∈ p.ids)
    (hids : s'.trail.valuation.ids = s.trail.valuation.ids) : s'.Named p where
  ids_eq := hids.trans h.ids_eq
  mem_ids := by
    rw [hlog]
    exact List.forall_mem_cons.mpr ⟨hevent, h.mem_ids⟩

lemma Named.idAt_mem (h : s.Named p) {i : Nat} (hi : i < s.trail.valuation.size) :
    s.idAt i ∈ p.ids := by
  rw [← Valuation.length_ids] at hi
  rw [← h.ids_eq, idAt, Valuation.idAt_eq, List.getD_eq_getElem _ _ hi]
  exact List.getElem_mem hi

lemma Underway.mem_ids_of_mostRecent (hu : Underway p base frames s) (h : s.Named p) {id : Nat}
    (hid : s.trail.mostRecent = some id) : id ∈ p.ids := by
  obtain ⟨e, he, rfl⟩ := Option.map_eq_some_iff.mp hid
  exact h.idAt_mem (hu.consistent.lt_size (List.mem_of_mem_head? he))

lemma stepwise_named : Stepwise p base (fun _ => Named p) (fun _ => Named p) where
  inspect := by
    intro frames s hu h
    refine h.cons (.visit (s.stats.nodes + 1) s.trail.mostRecent) rfl ?_ (by simp [inspected])
    intro id hid
    exact hu.mem_ids_of_mostRecent h (Option.mem_toList.mp hid)
  force := by
    intro l reason frames s _ hlt _ h
    refine h.cons (.force (s.idAt l.symbol) l.sign.satisfying reason) rfl ?_
      (by simp [forced, Trail.extend])
    exact List.forall_mem_singleton.mpr (h.idAt_mem hlt)
  guess := by
    intro i frames s _ hlt _ h
    refine h.cons (.branch (s.idAt i)) rfl ?_ (by simp [guessed, Trail.extend])
    exact List.forall_mem_singleton.mpr (h.idAt_mem hlt)
  giveUp := by
    intro frame frames s _ hu h
    refine h.cons (.backtrack (s.idAt frame.symbol)) rfl ?_
      (by simp [undone, release, Trail.retract])
    exact List.forall_mem_singleton.mpr (h.idAt_mem hu.lt_size)
  turn := by
    intro i frames s hu h
    have hid : s.idAt i ∈ p.ids := h.idAt_mem hu.lt_size
    have hundone : (s.undone i).Named p :=
      h.cons (.backtrack (s.idAt i)) rfl (List.forall_mem_singleton.mpr hid)
        (by simp [undone, Trail.retract])
    exact hundone.cons (.retry (s.idAt i)) rfl (List.forall_mem_singleton.mpr hid)
      (by simp [retried, undone, Trail.extend])
  pool := by
    rintro pool frames s ⟨hids, hmem⟩
    exact ⟨hids, hmem⟩

lemma Named.record (h : s.Named p) {event : Event} (hevent : event.ids = []) :
    (s.record event).Named p :=
  h.cons event rfl (by simp [hevent]) rfl

lemma Named.rename_congr (h : s.Named p) (hrg : ∀ id ∈ p.ids, r id = g id) :
    s.rename r = s.rename g := by
  have hvaluation : s.trail.valuation.rename r = s.trail.valuation.rename g :=
    Valuation.rename_congr (h.ids_eq ▸ hrg)
  have hlog : s.log.map (·.rename r) = s.log.map (·.rename g) :=
    List.map_congr_left fun event he =>
      Event.rename_congr fun id hid => hrg id (h.mem_ids event he id hid)
  rw [rename, rename, Trail.rename, Trail.rename, hvaluation, hlog]

/-- How ids are renamed that no symbol has does not matter. -/
lemma Closed.renamedRun_congr {result : EStateM.Result Stop Search Solution}
    (h : Closed base (fun _ => Named p) (fun _ => Named p) result)
    (hrg : ∀ id ∈ p.ids, r id = g id) : renamedRun r result = renamedRun g result := by
  cases h with
  | interrupted cancelled expired hs =>
    simp only [renamedRun]
    rw [(hs.record rfl).rename_congr hrg]
  | solved hs | failed hs =>
    rw [← finish_rename, ← finish_rename, hs.rename_congr hrg]

/-- A run over renamed symbols is the same run under other names. -/
theorem solve_rename (hp : p.Proper) (hs : s.Ready p) (hzero : 0 ∉ p.ids) (r : Nat → Nat)
    (schedule : Schedule) : (s.rename r).solve schedule = renamedRun r (s.solve schedule) := by
  -- An index without a symbol has the id 0, which may be renamed; no run meets such an index.
  have hagree : ∀ id ∈ p.ids, r id = Function.update r 0 0 id := by
    intro id hid
    rw [Function.update_of_ne]
    rintro rfl
    exact hzero hid
  have hstart : Named p { s with log := [] } := ⟨hs.consistent.ids_eq, by simp⟩
  have hsame : { s.rename r with log := [] } =
      rename (Function.update r 0 0) { s with log := [] } :=
    hstart.rename_congr hagree
  have hclosed := stepwise_named.solve hp hs hstart schedule
  rw [solve_eq, hsame, runFrom_rename (Function.update_self 0 0 r), ← solve_eq,
    ← hclosed.renamedRun_congr hagree]

end Named

end Search

end Dpll
