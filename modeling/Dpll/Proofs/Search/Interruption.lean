import Dpll.Proofs.Search.Steadiness

/-!
Runs that are cut short. Main statement: whatever is answered at the polls, a run takes the turns of
the run that nothing stops, up to the first poll that stops it. It is asked before each visit, the
first one included, and nowhere else. Nothing is assumed of the search that is run.
-/

namespace Dpll

namespace Search

/-- The nodes that the log of a run records. -/
def visits (s : Search) : Nat :=
  s.log.countP (·.isVisit)

/-- The second search comes after the first one and before the next visit. -/
structure WithinNode (s s' : Search) : Prop where
  nodes_eq : s'.stats.nodes = s.stats.nodes
  log_eq : ∃ later, s'.log = later ++ s.log ∧ ∀ event ∈ later, event.isVisit = false

section Log

variable {s s' : Search}

lemma exists_final_onTrail {α : Type} (act : EStateM Fault Trail α) (s : Search) :
    ∃ trail, final (onTrail act s) = { s with trail } := by
  unfold onTrail
  cases act s.trail with
  | ok _ trail | error _ trail => exact ⟨trail, rfl⟩

lemma withinNode_onTrail {α : Type} (act : EStateM Fault Trail α) (s : Search) :
    WithinNode s (final (onTrail act s)) := by
  obtain ⟨trail, heq⟩ := exists_final_onTrail act s
  rw [heq]
  exact ⟨rfl, [], rfl, nofun⟩

lemma steady_withinNode : Steady WithinNode where
  refl s := ⟨rfl, [], rfl, nofun⟩
  trans := by
    rintro s₁ s₂ s₃ ⟨hnodes, later, hlog, hlater⟩ ⟨hnodes', later', hlog', hlater'⟩
    refine ⟨hnodes'.trans hnodes, later' ++ later, ?_, ?_⟩
    · rw [hlog', hlog, List.append_assoc]
    · intro event he
      obtain he | he := List.mem_append.mp he
      · exact hlater' event he
      · exact hlater event he
  status s := withinNode_onTrail _ s
  push i b s := withinNode_onTrail _ s
  pop s := withinNode_onTrail _ s
  pool _ s := ⟨rfl, [], rfl, nofun⟩
  count hf s := ⟨hf s.stats, [], rfl, nofun⟩
  record {event} he s := ⟨rfl, [event], rfl, by simpa using he⟩

lemma WithinNode.visits_eq (h : WithinNode s s') : s'.visits = s.visits := by
  obtain ⟨later, hlog, hlater⟩ := h.log_eq
  have hnone : later.countP (·.isVisit) = 0 := by
    rw [List.countP_eq_zero]
    intro event he
    simp [hlater event he]
  rw [visits, visits, hlog, List.countP_append, hnone, Nat.zero_add]

lemma WithinNode.log_suffix (h : WithinNode s s') : s.log <:+ s'.log := by
  obtain ⟨later, hlog, -⟩ := h.log_eq
  exact ⟨later, hlog.symm⟩

lemma visits_enter (s : Search) : s.enter.visits = s.visits + 1 := by
  simp [visits, enter, record, count, Event.isVisit]

lemma nodes_enter (s : Search) : s.enter.stats.nodes = s.stats.nodes + 1 := rfl

lemma events_enter (s : Search) :
    s.enter.events = s.events ++ [.visit (s.stats.nodes + 1) s.trail.mostRecent] := by
  simp [events, enter, record, count]

lemma log_suffix_turn (poll : Poll) (frames : List Frame) (s : Search) :
    s.log <:+ (turn poll frames s).final.log := by
  by_cases hstop : poll.stops = true
  · rw [turn_of_stops hstop]
    exact List.suffix_cons _ _
  · exact (List.suffix_cons _ _).trans (steady_withinNode.turn hstop frames s).log_suffix

lemma log_suffix_runFrom (schedule : Schedule) (n : Nat) (frames : List Frame) (s : Search) :
    s.log <:+ (final (runFrom schedule n frames s)).log := by
  refine run_induction (P := fun _ s₁ => s.log <:+ s₁.log) (Q := fun r => s.log <:+ (final r).log)
    schedule ?_ n frames s List.suffix_rfl
  intro n frames s₁ hs₁
  have hturn := hs₁.trans (log_suffix_turn (schedule n) frames s₁)
  cases heq : turn (schedule n) frames s₁ with
  | ended result | pending frames' s₂ =>
    rw [heq] at hturn
    exact hturn

end Log

namespace Polled

variable {schedule : Schedule} {s s' : Search} {n : Nat} {frames : List Frame}

lemma visits_eq (h : Polled schedule s n frames s') :
    s'.stats.nodes = s.stats.nodes + n ∧ s'.visits = n := by
  induction h with
  | start => exact ⟨rfl, rfl⟩
  | @next n frames _ s₁ _ _ hturn ih =>
    have hnode := steady_withinNode.turn (turn_eq_pending_iff.mp hturn).1 frames s₁
    rw [hturn] at hnode
    have hvisits := hnode.visits_eq
    have hnodes := hnode.nodes_eq
    rw [visits_enter, ih.2] at hvisits
    rw [nodes_enter, ih.1] at hnodes
    exact ⟨hnodes, hvisits⟩

/-- A poll that does not stop the run is followed by a visit. -/
lemma log_suffix_solve (h : Polled schedule s n frames s') (hgo : ¬ (schedule n).stops = true) :
    s'.enter.log <:+ (final (s.solve schedule)).log := by
  have hnode := (steady_withinNode.turn hgo frames s').log_suffix
  rw [h.solve_eq, runFrom_eq]
  cases hturn : turn (schedule n) frames s' with
  | ended result =>
    rw [hturn] at hnode
    exact hnode
  | pending frames' s₁ =>
    rw [hturn] at hnode
    exact hnode.trans (log_suffix_runFrom _ _ _ _)

end Polled

/-- A run that nothing stops is asked once before each of its visits. -/
theorem exists_polled_iff (s : Search) (n : Nat) :
    (∃ frames s', Polled .unlimited s n frames s') ↔
      n < (final (s.solve .unlimited)).visits := by
  constructor
  · rintro ⟨frames, s', h⟩
    have hlog := h.log_suffix_solve (not_stops_unlimited n)
    have hle : s'.enter.visits ≤ (final (s.solve .unlimited)).visits := hlog.sublist.countP_le
    rw [visits_enter, h.visits_eq.2] at hle
    exact hle
  · intro hn
    obtain ⟨m, frames, s', h, hend⟩ := exists_last_poll .unlimited s
    have hnode := steady_withinNode.turn (not_stops_unlimited m) frames s'
    rw [hend] at hnode
    have hvisits : (final (s.solve .unlimited)).visits = m + 1 := by
      rw [← h.visits_eq.2, ← visits_enter, ← hnode.visits_eq]
      rfl
    exact h.exists_earlier (by omega)

/-- A run that is not cut short does what it does without limit. -/
theorem solve_eq_unlimited (schedule : Schedule) (s : Search)
    (h : ∀ n s', s.solve schedule ≠ .error (.interrupted n) s') :
    s.solve schedule = s.solve .unlimited := by
  obtain ⟨m, frames, s', hpolled, hend⟩ := exists_last_poll schedule s
  have hgo : ¬ (schedule m).stops = true := by
    obtain ⟨-, heq⟩ | ⟨hgo, -⟩ := turn_ended hend
    · exact absurd heq (h _ _)
    · exact hgo
  have hfree : Polled .unlimited s m frames s' := hpolled.congr fun k _ => not_stops_unlimited k
  rw [turn_of_not_stops hgo] at hend
  rw [← turn_of_not_stops (not_stops_unlimited m)] at hend
  exact (hfree.solve_eq_of_ended hend).symm

/-- The answers at the polls decide how far a run gets and nothing else. -/
theorem solve_schedule (s : Search) (schedule : Schedule) :
    (∀ n, (∃ frames s', Polled .unlimited s n frames s') ↔
        n < (final (s.solve .unlimited)).visits) ∧
      ((∀ n < (final (s.solve .unlimited)).visits, ¬ (schedule n).stops = true) →
        s.solve schedule = s.solve .unlimited) ∧
      ∀ n < (final (s.solve .unlimited)).visits, (schedule n).stops = true →
        (∀ m < n, ¬ (schedule m).stops = true) →
          ∃ frames s', Polled .unlimited s n frames s' ∧ s'.visits = n ∧
            s'.events ++ [.visit (s.stats.nodes + n + 1) s'.trail.mostRecent] <+:
              (final (s.solve .unlimited)).events ∧
            s.solve schedule = .error (.interrupted (s.stats.nodes + n))
              (s'.record (.interrupted (s.stats.nodes + n) (schedule n).cancelled
                (schedule n).expired)) := by
  refine ⟨exists_polled_iff s, ?_, ?_⟩
  · intro hgo
    obtain ⟨m, frames, s', h, hend⟩ := exists_last_poll .unlimited s
    have hlast : m < (final (s.solve .unlimited)).visits :=
      (exists_polled_iff s m).mp ⟨frames, s', h⟩
    have hpolled : Polled schedule s m frames s' := h.congr fun k hk => hgo k (by omega)
    apply hpolled.solve_eq_of_ended
    rw [← hend, turn_of_not_stops (hgo m hlast), turn_of_not_stops (not_stops_unlimited m)]
  · intro n hn hstop hgo
    obtain ⟨frames, s', h⟩ := (exists_polled_iff s n).mpr hn
    obtain ⟨hnodes, hvisits⟩ := h.visits_eq
    refine ⟨frames, s', h, hvisits, ?_, ?_⟩
    · have hlog := h.log_suffix_solve (not_stops_unlimited n)
      rw [← hnodes, ← events_enter]
      exact List.reverse_prefix.mpr hlog
    · rw [← hnodes]
      exact (h.congr hgo).solve_eq_of_ended (turn_of_stops hstop frames s')

/-- A run over the sample that is cut short when its first guess has just been turned. -/
theorem solve_schedule_sample :
    ∃ frames s', Polled .unlimited (new Problem.sample.trail) 3 frames s' ∧ s'.visits = 3 ∧
      (new Problem.sample.trail).solve (Schedule.unlimited.cancelAfter 3) =
        .error (.interrupted 3) (s'.record (.interrupted 3 true false)) := by
  have hvisits : (final ((new Problem.sample.trail).solve .unlimited)).visits = 6 := by
    rw [solve_eq, runFrom_eq]
    cbv
  have h := solve_schedule (new Problem.sample.trail) (Schedule.unlimited.cancelAfter 3)
  obtain ⟨frames, s', hpolled, hcount, -, hsolve⟩ := h.2.2 3 (by omega) (by decide) (by decide)
  exact ⟨frames, s', hpolled, hcount, hsolve⟩

end Search

end Dpll
