import Mathlib.Data.List.Perm.Subperm
import Dpll.Proofs.Search.Answer
import Dpll.Proofs.Search.Polls
import Dpll.Proofs.Search.Stepwise

/-!
The log of a run as its account. A replay reads the events alone: it pushes and pops what they
name, and refuses an event that does not fit what came before. Main statement: the log of every run
replays from the entries of its start to those of its end, the counts have grown by the numbers of
its events, and what was pushed, popped and looked at balances as the answer asks for.
-/

namespace Dpll

namespace Event

/-- What an event is counted as. -/
inductive Kind where
  | visit
  | decision (reason : Reason)
  | branch
  | backtrack
  | retry
  | ending
  deriving DecidableEq

def kind : Event → Kind
  | visit _ _ => .visit
  | force _ _ reason => .decision reason
  | branch _ => .branch
  | backtrack _ => .backtrack
  | retry _ => .retry
  | interrupted _ _ _ | finished _ _ => .ending

def tally (kind : Kind) (events : List Event) : Nat :=
  (events.map (·.kind)).count kind

@[simp] lemma tally_append (kind : Kind) (events later : List Event) :
    tally kind (events ++ later) = tally kind events + tally kind later := by
  simp [tally]

@[simp] lemma tally_nil (kind : Kind) : tally kind [] = 0 := rfl

@[simp] lemma tally_cons (kind : Kind) (event : Event) (events : List Event) :
    tally kind (event :: events) = tally kind events + if event.kind = kind then 1 else 0 := by
  simp [tally, List.count_cons]

/-- How many of these events put an entry on the trail. -/
def pushes (events : List Event) : Nat :=
  tally (.decision .pureLiteral) events + tally (.decision .unitClause) events +
    tally .branch events + tally .retry events

lemma pushes_append (events later : List Event) :
    pushes (events ++ later) = pushes events + pushes later := by
  simp only [pushes, tally_append]
  omega

end Event

namespace Stats

instance : Add Stats where
  add a b :=
    { nodes := a.nodes + b.nodes
      pureDecisions := a.pureDecisions + b.pureDecisions
      unitDecisions := a.unitDecisions + b.unitDecisions
      branches := a.branches + b.branches
      backtracks := a.backtracks + b.backtracks }

/-- The numbers of the events that are counted. -/
def ofEvents (events : List Event) : Stats where
  nodes := Event.tally .visit events
  pureDecisions := Event.tally (.decision .pureLiteral) events
  unitDecisions := Event.tally (.decision .unitClause) events
  branches := Event.tally .branch events
  backtracks := Event.tally .backtrack events

lemma nodes_add (a b : Stats) : (a + b).nodes = a.nodes + b.nodes := rfl

lemma backtracks_add (a b : Stats) : (a + b).backtracks = a.backtracks + b.backtracks := rfl

lemma add_assoc (a b c : Stats) : a + b + c = a + (b + c) := by
  change Stats.mk .. = Stats.mk ..
  simp only [Stats.mk.injEq]
  exact ⟨Nat.add_assoc .., Nat.add_assoc .., Nat.add_assoc .., Nat.add_assoc .., Nat.add_assoc ..⟩

lemma ofEvents_append (events later : List Event) :
    ofEvents (events ++ later) = ofEvents events + ofEvents later := by
  simp only [ofEvents, Event.tally_append]
  rfl

end Stats

/-- What the events so far have come to. -/
structure Replay where
  nodes : Nat
  /-- The values given and not taken back, the latest first, by the ids of their symbols. -/
  entries : List (Nat × Bool)
  /-- The id that the last event names, if that took a value back. -/
  undone : Option Nat := none

namespace Replay

variable (ids : List Nat)

/-- Gives a value to a symbol with this id, of which one must be without a value. -/
def push (id : Nat) (value : Bool) (r : Replay) : Option Replay :=
  if (r.entries.map (·.1)).count id < ids.count id then
    some { nodes := r.nodes, entries := (id, value) :: r.entries }
  else none

/-- Takes back the latest value, which must be that of a symbol with this id. -/
def pop (id : Nat) (r : Replay) : Option Replay :=
  match r.entries with
  | [] => none
  | e :: entries =>
    if e.1 = id then some { nodes := r.nodes, entries, undone := some id } else none

/-- A visit has the next number and names the latest symbol, and a retry follows the backtrack
of its symbol. -/
def step (r : Replay) : Event → Option Replay
  | .visit node mostRecent =>
    if node = r.nodes + 1 ∧ mostRecent = r.entries.head?.map (·.1) then
      some { nodes := node, entries := r.entries }
    else none
  | .force id value _ => r.push ids id value
  | .branch id => r.push ids id true
  | .backtrack id => r.pop id
  | .retry id => if r.undone = some id then r.push ids id false else none
  | .interrupted _ _ _ | .finished _ _ => some { nodes := r.nodes, entries := r.entries }

def run (events : List Event) (r : Replay) : Option Replay :=
  events.foldlM (step ids) r

lemma run_append (events later : List Event) (r : Replay) :
    run ids (events ++ later) r = (run ids events r).bind (run ids later) :=
  List.foldlM_append

@[simp] lemma run_singleton (event : Event) (r : Replay) :
    run ids [event] r = step ids r event := by
  simp [run]

end Replay

namespace Trail

/-- The assignments, the most recent first, by the ids of their symbols. -/
def named (t : Trail) : List (Nat × Bool) :=
  t.entries.map fun e => (t.valuation.idAt e.symbol, e.value)

@[simp] lemma named_settle (t : Trail) : t.settle.named = t.named := by
  simp [named]

@[simp] lemma named_extend (t : Trail) (e : Entry) :
    (t.extend e).named = (t.valuation.idAt e.symbol, e.value) :: t.named := by
  simp [named, extend]

@[simp] lemma named_retract (t : Trail) (i : Nat) : (t.retract i).named = t.named.tail := by
  simp [named, retract]

lemma mostRecent_eq (t : Trail) : t.mostRecent = t.named.head?.map (·.1) := by
  simp [mostRecent, named, Function.comp_def]

end Trail

lemma Valuation.ids_eq_map (v : Valuation) : v.ids = (List.range v.size).map v.idAt := by
  rw [ids, symbols_eq, List.map_map]
  rfl

/-- The entries leave a symbol with this id to be assigned. -/
lemma Trail.Consistent.count_lt {p : Problem} {t : Trail} (h : t.Consistent p) {i : Nat}
    (hlt : i < t.valuation.size) (hnone : t.valuation.valueAt i = none) :
    (t.named.map (·.1)).count (t.valuation.idAt i) < p.ids.count (t.valuation.idAt i) := by
  have hnodup : (i :: t.entries.map (·.symbol)).Nodup :=
    List.nodup_cons.mpr ⟨(h.valueAt_eq_none_iff_not_mem i).mp hnone, h.nodup⟩
  have hsub : (i :: t.entries.map (·.symbol)) ⊆ List.range t.valuation.size := by
    intro j hj
    rw [List.mem_range]
    obtain rfl | hj := List.mem_cons.mp hj
    · exact hlt
    · obtain ⟨e, he, rfl⟩ := List.mem_map.mp hj
      exact h.lt_size he
  obtain ⟨symbols, hperm, hsublist⟩ := hnodup.subperm hsub
  have hcount := (hsublist.map t.valuation.idAt).count_le (t.valuation.idAt i)
  rw [(hperm.map _).count_eq, ← Valuation.ids_eq_map, h.ids_eq, List.map_cons,
    List.count_cons_self, List.map_map] at hcount
  rw [Trail.named, List.map_map]
  exact hcount

/-- Where ids are unique, the entries can be told by them. -/
lemma Trail.Consistent.entries_eq {p : Problem} {t : Trail} (h : t.Consistent p)
    (hids : p.ids.Nodup) : t.named.map (fun x => ⟨p.ids.idxOf x.1, x.2⟩) = t.entries := by
  rw [Trail.named, List.map_map]
  refine (List.map_congr_left fun e he => ?_).trans (List.map_id _)
  have hlt := h.lt_size he
  rw [h.size_eq] at hlt
  have hid : t.valuation.idAt e.symbol = p.ids[e.symbol] := by
    simp [Valuation.idAt_eq, h.ids_eq, hlt]
  simp only [Function.comp_apply, hid, hids.idxOf_getElem, id]

namespace Search

/-- The log of a run leads from the start of the run to this state. -/
def Replayed (ids : List Nat) (start s : Search) : Prop :=
  ∃ undone, Replay.run ids s.events { nodes := start.stats.nodes, entries := start.trail.named } =
    some { nodes := s.stats.nodes, entries := s.trail.named, undone }

/-- The counts of a run so far. Every node has been followed by a push, but for so many that still
wait for theirs, and each guess that was not turned has a frame. -/
structure Counted (start : Search) (pending : Nat) (frames : List Frame) (s : Search) : Prop where
  stats_eq : s.stats = start.stats + .ofEvents s.events
  length_eq : s.trail.length + Event.tally .backtrack s.events =
    start.trail.length + Event.pushes s.events
  visits_eq : Event.tally .visit s.events = Event.pushes s.events + pending
  branches_eq : Event.tally .branch s.events =
    Event.tally .retry s.events + frames.countP (·.isGuess)

section Events

variable (s : Search)

@[simp] lemma events_record (event : Event) : (s.record event).events = s.events ++ [event] := by
  simp [events, record]

@[simp] lemma events_inspected :
    s.inspected.events = s.events ++ [.visit (s.stats.nodes + 1) s.trail.mostRecent] := by
  simp [events, inspected, enter, record, count]

@[simp] lemma events_forced (l : Literal) (reason : Reason) :
    (s.forced l reason).events =
      s.events ++ [.force (s.idAt l.symbol) l.sign.satisfying reason] := by
  simp [events, forced]

@[simp] lemma events_guessed (i : Nat) :
    (s.guessed i).events = s.events ++ [.branch (s.idAt i)] := by
  simp [events, guessed]

@[simp] lemma events_undone (i : Nat) :
    (s.undone i).events = s.events ++ [.backtrack (s.idAt i)] := by
  simp [events, undone]

@[simp] lemma events_retried (i : Nat) :
    (s.retried i).events = s.events ++ [.backtrack (s.idAt i), .retry (s.idAt i)] := by
  simp [events, retried]

end Events

section Counted

variable {p : Problem} {base : List Entry} {start s s' : Search} {pending pending' : Nat}
  {frames frames' : List Frame}

lemma counted_start (s : Search) : Counted s 0 [] { s with log := [] } where
  stats_eq := rfl
  length_eq := rfl
  visits_eq := rfl
  branches_eq := rfl

/-- Later events count on their own. -/
lemma Counted.append (h : Counted start pending frames s) (events : List Event)
    (hevents : s'.events = s.events ++ events) (hstats : s'.stats = s.stats + .ofEvents events)
    (hlength : s'.trail.length + Event.tally .backtrack events =
      s.trail.length + Event.pushes events)
    (hvisits : pending + Event.tally .visit events = Event.pushes events + pending')
    (hbranches : frames.countP (·.isGuess) + Event.tally .branch events =
      frames'.countP (·.isGuess) + Event.tally .retry events) :
    Counted start pending' frames' s' := by
  obtain ⟨hstats₀, hlength₀, hvisits₀, hbranches₀⟩ := h
  constructor
  · rw [hstats, hstats₀, hevents, Stats.ofEvents_append, Stats.add_assoc]
  · rw [hevents, Event.tally_append, Event.pushes_append]
    omega
  · rw [hevents, Event.tally_append, Event.pushes_append]
    omega
  · rw [hevents, Event.tally_append, Event.tally_append]
    omega

lemma Counted.record (h : Counted start pending frames s) (event : Event)
    (hkind : event.kind = .ending) : Counted start pending frames (s.record event) := by
  refine h.append [event] (events_record s event) ?_ ?_ ?_ ?_
  · simp [Stats.ofEvents, hkind]
    rfl
  · simp [Trail.length, Search.record, Event.pushes, hkind]
  · simp [Event.pushes, hkind]
  · simp [hkind]

lemma Underway.length_tail {frame : Frame} (h : Underway p base (frame :: frames) s) :
    s.trail.entries.tail.length + 1 = s.trail.length := by
  obtain ⟨b, rest, he, -⟩ := h.stacked.of_cons
  simp [Trail.length, he]

/-- Every node but the last is followed by one push. -/
lemma stepwise_counted : Stepwise p base (Counted start 0) (Counted start 1) where
  inspect := by
    intro frames s _ h
    refine h.append _ (events_inspected s) rfl ?_ rfl rfl
    simp [Trail.length, Event.pushes, Event.kind]
  force := by
    intro l reason frames s _ _ _ h
    refine h.append _ (events_forced s l reason) ?_ ?_ ?_ ?_
    · cases reason <;> rfl
    · cases reason <;> simp [Trail.length, Event.pushes, Event.kind, forced, Trail.extend]
    · cases reason <;> simp [Event.pushes, Event.kind]
    · simp [Event.kind]
  guess := by
    intro i frames s _ _ _ h
    refine h.append _ (events_guessed s i) rfl ?_ rfl ?_
    · simp [Trail.length, Event.pushes, Event.kind, guessed, Trail.extend]
    · simp [Event.kind, List.countP_cons]
  giveUp := by
    intro frame frames s hguess hu h
    have hlength := hu.length_tail
    refine h.append _ (events_undone (s.release frame.symbol) frame.symbol) rfl ?_ rfl ?_
    · simpa [Trail.length, undone, release, Trail.retract, Event.pushes, Event.kind] using hlength
    · simp [Event.kind, hguess]
  turn := by
    intro i frames s hu h
    have hlength := hu.length_tail
    refine h.append _ (events_retried s i) rfl ?_ rfl ?_
    · simpa [Trail.length, retried, Trail.extend, Trail.retract, Event.pushes, Event.kind]
        using hlength
    · simp [Event.kind, List.countP_cons]
  pool := by
    rintro pool frames s ⟨hstats, hlength, hvisits, hbranches⟩
    exact ⟨hstats, hlength, hvisits, hbranches⟩

end Counted

section Replayed

variable {p : Problem} {base : List Entry} {start s s' : Search}

lemma replayed_start (ids : List Nat) (s : Search) : Replayed ids s { s with log := [] } :=
  ⟨none, rfl⟩

lemma Replayed.append {ids : List Nat} (h : Replayed ids start s) (events : List Event)
    (hevents : s'.events = s.events ++ events)
    (hrun : ∀ undone, ∃ undone', Replay.run ids events ⟨s.stats.nodes, s.trail.named, undone⟩ =
      some ⟨s'.stats.nodes, s'.trail.named, undone'⟩) : Replayed ids start s' := by
  obtain ⟨undone, h⟩ := h
  obtain ⟨undone', hrun⟩ := hrun undone
  refine ⟨undone', ?_⟩
  rw [hevents, Replay.run_append, h]
  exact hrun

lemma Replayed.record {ids : List Nat} (h : Replayed ids start s) (event : Event)
    (hkind : event.kind = .ending) : Replayed ids start (s.record event) := by
  refine h.append [event] (events_record s event) fun undone => ⟨none, ?_⟩
  rw [Replay.run_singleton]
  cases event with
  | interrupted _ _ _ | finished _ _ => rfl
  | visit _ _ | force _ _ _ | branch _ | backtrack _ | retry _ => cases hkind

lemma push_named {t : Trail} (h : t.Consistent p) {i : Nat} (hlt : i < t.valuation.size)
    (hnone : t.valuation.valueAt i = none) (b : Bool) (nodes : Nat) (undone : Option Nat) :
    Replay.push p.ids (t.valuation.idAt i) b ⟨nodes, t.named, undone⟩ =
      some ⟨nodes, (t.extend ⟨i, b⟩).named, none⟩ := by
  simp only [Replay.push, h.count_lt hlt hnone, if_true, Trail.named_extend]

lemma pop_named {frame : Frame} {frames : List Frame} (h : Underway p base (frame :: frames) s)
    (nodes : Nat) (undone : Option Nat) :
    Replay.pop (s.idAt frame.symbol) ⟨nodes, s.trail.named, undone⟩ =
      some ⟨nodes, (s.trail.retract frame.symbol).named, some (s.idAt frame.symbol)⟩ := by
  obtain ⟨b, rest, he, -⟩ := h.stacked.of_cons
  rw [Trail.named_retract]
  simp only [Trail.named, he, List.map_cons, List.tail_cons]
  exact if_pos rfl

lemma stepwise_replayed :
    Stepwise p base (fun _ s => Replayed p.ids start s) (fun _ s => Replayed p.ids start s) where
  inspect := by
    intro frames s _ h
    refine h.append _ (events_inspected s) fun undone => ⟨none, ?_⟩
    simp [Replay.step, Trail.mostRecent_eq, inspected, enter, record, count, Stats.countNode]
  force := by
    intro l reason frames s hu hlt hnone h
    refine h.append _ (events_forced s l reason) fun undone => ⟨none, ?_⟩
    rw [Replay.run_singleton]
    cases reason <;> exact push_named hu.consistent hlt hnone _ _ undone
  guess := by
    intro i frames s hu hlt hnone h
    refine h.append _ (events_guessed s i) fun undone => ⟨none, ?_⟩
    rw [Replay.run_singleton]
    exact push_named hu.consistent hlt hnone true _ undone
  giveUp := by
    intro frame frames s _ hu h
    refine h.append _ (events_undone (s.release frame.symbol) frame.symbol)
      fun undone => ⟨some (s.idAt frame.symbol), ?_⟩
    rw [Replay.run_singleton]
    exact pop_named hu _ undone
  turn := by
    intro i frames s hu h
    obtain ⟨hcons, hlt, hnone⟩ := hu.retract
    refine h.append _ (events_retried s i) fun undone => ⟨none, ?_⟩
    have hpop := pop_named hu s.stats.nodes undone
    have hpush := push_named hcons hlt hnone false s.stats.nodes (some (s.idAt i))
    have hid : (s.trail.retract i).valuation.idAt i = s.idAt i := Valuation.idAt_set ..
    simp only [Frame.symbol] at hpop hpush
    rw [hid] at hpush
    rw [← List.singleton_append, Replay.run_append, Replay.run_singleton]
    simp only [Replay.step, hpop, Option.bind_some, Replay.run_singleton, if_true]
    exact hpush
  pool := by
    intro pool frames s h
    exact h

end Replayed

/-- What the counts of a run come to, by the way in which it ended. -/
def Balanced (start : Search) (growth : Stats) : EStateM.Result Stop Search Solution → Prop
  | .ok (.sat _) s => growth.nodes + start.trail.length = 1 + growth.backtracks + s.trail.length
  | .error (.interrupted _) s =>
    growth.nodes + start.trail.length = growth.backtracks + s.trail.length
  | .ok .unsat _ | .error (.fault _) _ =>
    growth.backtracks = growth.pureDecisions + growth.unitDecisions + 2 * growth.branches ∧
      growth.nodes = growth.backtracks + 1

section Balanced

variable {p : Problem} {start s : Search} {frames : List Frame}

lemma balanced_interrupted (h : Counted start 0 frames s) (n : Nat) :
    Balanced start (.ofEvents s.events) (.error (.interrupted n) s) := by
  have hlength := h.length_eq
  have hvisits := h.visits_eq
  simp only [Balanced, Stats.ofEvents]
  omega

lemma balanced_solved (h : Counted start 1 frames s) (a : List (Nat × Option Bool)) :
    Balanced start (.ofEvents s.events) (.ok (.sat a) s) := by
  have hlength := h.length_eq
  have hvisits := h.visits_eq
  simp only [Balanced, Stats.ofEvents]
  omega

/-- A failure has taken back all that the run has pushed, and each guess was turned. -/
lemma balanced_failed (h : Counted start 1 [] s) (hbase : s.trail.entries = start.trail.entries) :
    let growth := Stats.ofEvents s.events
    growth.backtracks = growth.pureDecisions + growth.unitDecisions + 2 * growth.branches ∧
      growth.nodes = growth.backtracks + 1 := by
  have hlength := h.length_eq
  have hvisits := h.visits_eq
  have hbranches := h.branches_eq
  rw [Trail.length, Trail.length, hbase] at hlength
  simp only [Event.pushes, List.countP_nil] at hlength hvisits hbranches
  simp only [Stats.ofEvents]
  omega

end Balanced

variable {p : Problem} {base : List Entry} {s : Search}

lemma Kept.consistent {r : EStateM.Result Stop Search Solution} (h : Kept p base r) :
    (final r).trail.Consistent p := by
  cases h with
  | sat hs | unsat hs | stopped hs => exact hs

lemma counted_solve (hp : p.Proper) (hs : s.Ready p) (schedule : Schedule) :
    (final (s.solve schedule)).stats = s.stats + .ofEvents (final (s.solve schedule)).events ∧
      Balanced s (.ofEvents (final (s.solve schedule)).events) (s.solve schedule) := by
  have hclosed := stepwise_counted.solve hp hs (counted_start s) schedule
  generalize s.solve schedule = r at hclosed
  cases hclosed with
  | @interrupted _ s' cancelled expired hs =>
    have hcounted := hs.record (.interrupted s'.stats.nodes cancelled expired) rfl
    exact ⟨hcounted.stats_eq, balanced_interrupted hcounted _⟩
  | @solved _ s' hs =>
    have hcounted := hs.record (.finished true s'.stats) rfl
    exact ⟨hcounted.stats_eq, balanced_solved hcounted _⟩
  | @failed s' hs hbase =>
    have hcounted := hs.record (.finished false s'.stats) rfl
    have hbalanced := balanced_failed hcounted hbase
    by_cases hnil : s'.trail.entries = []
    · rw [finish_false_of_nil hnil]
      exact ⟨hcounted.stats_eq, hbalanced⟩
    · rw [finish_false_of_ne_nil hnil]
      exact ⟨hcounted.stats_eq, hbalanced⟩

lemma replayed_solve (hp : p.Proper) (hs : s.Ready p) (schedule : Schedule) :
    Replayed p.ids s (final (s.solve schedule)) := by
  have hclosed := stepwise_replayed.solve hp hs (replayed_start p.ids s) schedule
  generalize s.solve schedule = r at hclosed
  cases hclosed with
  | interrupted cancelled expired hs => exact hs.record _ rfl
  | solved hs | failed hs =>
    rw [final_finish]
    exact hs.record _ rfl

/-- The log of a run replays from its first entries to its last, the counts grow by the numbers of
its events, and these balance. -/
theorem solve_accounts (hp : p.Proper) (ht : s.trail.Reached p) (hpool : s.Pooled p)
    (schedule : Schedule) :
    let r := s.solve schedule
    let growth := Stats.ofEvents (final r).events
    Replayed p.ids s (final r) ∧
      (p.ids.Nodup → (final r).trail.named.map (fun x => ⟨p.ids.idxOf x.1, x.2⟩) =
        (final r).trail.entries) ∧
      (final r).stats = s.stats + growth ∧ Balanced s growth r := by
  have hs : s.Ready p := ⟨ht.consistent, hpool⟩
  have hkept := kept_solve ht.consistent schedule
  obtain ⟨hstats, hbalanced⟩ := counted_solve hp hs schedule
  refine ⟨replayed_solve hp hs schedule, ?_, hstats, hbalanced⟩
  intro hids
  exact hkept.consistent.entries_eq hids

/-- The run over the sample takes one assignment back and leaves three. -/
theorem solve_accounts_sample :
    ∃ a s', (new Problem.sample.trail).solve .unlimited = .ok (.sat a) s' ∧
      Replayed [1, 2, 3] (new Problem.sample.trail) s' ∧
      s'.trail.named.map (fun x => ⟨[1, 2, 3].idxOf x.1, x.2⟩) = s'.trail.entries ∧
      s'.stats.nodes = 1 + s'.stats.backtracks + s'.trail.length := by
  have hanswer : answer? ((new Problem.sample.trail).solve .unlimited) =
      some (.sat [(1, some false), (2, some false), (3, some true)]) := by
    rw [solve_eq, runFrom_eq]
    cbv
  obtain ⟨s, hsolve⟩ := eq_ok_of_answer? hanswer
  have hready : (new Problem.sample.trail).Ready Problem.sample := ready_new (.new _) rfl
  obtain ⟨hreplayed, hentries, hstats, hbalanced⟩ :=
    solve_accounts (by decide) .new hready.pooled .unlimited
  rw [hsolve] at hreplayed hentries hstats hbalanced
  simp only [final] at hstats
  refine ⟨_, s, hsolve, hreplayed, hentries (by decide), ?_⟩
  have hnodes : s.stats.nodes = 0 + (Stats.ofEvents s.events).nodes := by
    rw [hstats]
    rfl
  have hbacktracks : s.stats.backtracks = 0 + (Stats.ofEvents s.events).backtracks := by
    rw [hstats]
    rfl
  rw [hnodes, hbacktracks, Nat.zero_add, Nat.zero_add]
  exact hbalanced

end Search

end Dpll
