import Dpll.Proofs.Search.Verdict

/-!
A run as the sequence of its polls. Before every node a run is asked whether it may go on; what it
does next depends on the answer, its frames and its state, and on nothing that came before. Main
statement: every run has a last poll, and its result is what the turn after that poll ends with.
-/

namespace Dpll

namespace Search

/-- The search that an action leaves behind, whether it succeeds or not. -/
def final {ε α : Type} : EStateM.Result ε Search α → Search
  | .ok _ s | .error _ s => s

lemma final_finish (b : Bool) : final (finish b s) = s.record (.finished b s.stats) := by
  cases b with
  | true => rfl
  | false =>
    by_cases hnil : s.trail.entries = []
    · rw [finish_false_of_nil hnil]
      rfl
    · rw [finish_false_of_ne_nil hnil]
      rfl

def Turn.final : Turn → Search
  | .ended result => Search.final result
  | .pending _ s => s

section Turn

variable {poll : Poll} {frames frames' : List Frame} {s s' : Search}

lemma turn_eq_pending_iff :
    turn poll frames s = .pending frames' s' ↔
      ¬ poll.stops = true ∧ advance frames s = .ok (.pending frames') s' := by
  by_cases hstop : poll.stops = true
  · simp [turn_of_stops hstop, hstop]
  · rw [turn_of_not_stops hstop]
    cases advance frames s with
    | error fault s₁ => simp
    | ok progress s₁ => cases progress <;> simp [hstop]

lemma turn_ended {result : EStateM.Result Stop Search Solution}
    (h : turn poll frames s = .ended result) :
    (poll.stops = true ∧ result = .error (.interrupted s.stats.nodes)
        (s.record (.interrupted s.stats.nodes poll.cancelled poll.expired))) ∨
      ¬ poll.stops = true ∧
        ((∃ fault s', advance frames s = .error fault s' ∧ result = .error (.fault fault) s') ∨
          ∃ b s', advance frames s = .ok (.decided b) s' ∧ result = finish b s') := by
  by_cases hstop : poll.stops = true
  · rw [turn_of_stops hstop] at h
    cases h
    exact .inl ⟨hstop, rfl⟩
  · rw [turn_of_not_stops hstop] at h
    refine .inr ⟨hstop, ?_⟩
    cases hadvance : advance frames s with
    | error fault s₁ =>
      rw [hadvance] at h
      cases h
      exact .inl ⟨fault, s₁, rfl, rfl⟩
    | ok progress s₁ =>
      rw [hadvance] at h
      cases progress with
      | pending frames₁ => cases h
      | decided b =>
        cases h
        exact .inr ⟨b, s₁, rfl, rfl⟩

lemma turn_interrupted {n : Nat} (h : turn poll frames s = .ended (.error (.interrupted n) s')) :
    ∃ event, s' = s.record event := by
  obtain ⟨-, heq⟩ | ⟨-, ⟨_, _, -, heq⟩ | ⟨b, s₁, -, heq⟩⟩ := turn_ended h
  · cases heq
    exact ⟨_, rfl⟩
  · cases heq
  · exact absurd heq.symm (finish_ne_interrupted b s₁ n s')

lemma turn_sat {a : List (Nat × Option Bool)} (h : turn poll frames s = .ended (.ok (.sat a) s')) :
    ∃ s₁, advance frames s = .ok (.decided true) s₁ ∧ s' = s₁.record (.finished true s₁.stats) := by
  obtain ⟨-, heq⟩ | ⟨-, ⟨_, _, -, heq⟩ | ⟨b, s₁, hadvance, heq⟩⟩ := turn_ended h
  · cases heq
  · cases heq
  · obtain ⟨rfl, rfl⟩ := finish_eq_sat heq.symm
    exact ⟨s₁, hadvance, rfl⟩

end Turn

/-- A run is asked with these frames and in this state, with so many nodes of it done. -/
inductive Polled (schedule : Schedule) (s : Search) : Nat → List Frame → Search → Prop
  | start : Polled schedule s 0 [] { s with log := [] }
  | next {n : Nat} {frames frames' : List Frame} {s₁ s₂ : Search} :
      Polled schedule s n frames s₁ → turn (schedule n) frames s₁ = .pending frames' s₂ →
        Polled schedule s (n + 1) frames' s₂

namespace Polled

variable {schedule schedule' : Schedule} {s s' : Search} {n : Nat} {frames : List Frame}

lemma solve_eq (h : Polled schedule s n frames s') :
    s.solve schedule = runFrom schedule n frames s' := by
  induction h with
  | start => rfl
  | next _ hturn ih => rw [ih, runFrom_eq, hturn]

lemma solve_eq_of_ended (h : Polled schedule s n frames s')
    {result : EStateM.Result Stop Search Solution}
    (hturn : turn (schedule n) frames s' = .ended result) : s.solve schedule = result := by
  rw [h.solve_eq, runFrom_eq, hturn]

/-- A run that is under way is asked for a last time. -/
theorem exists_last (h : Polled schedule s n frames s') :
    ∃ m frames' s₁ result, Polled schedule s m frames' s₁ ∧
      turn (schedule m) frames' s₁ = .ended result := by
  induction hb : budget s' frames using Nat.strongRecOn generalizing n frames s' with
  | ind k ih =>
    cases hturn : turn (schedule n) frames s' with
    | ended result => exact ⟨n, frames, s', result, h, hturn⟩
    | pending frames₁ s₁ => exact ih _ (hb ▸ budget_turn hturn) (h.next hturn) rfl

/-- Up to a poll the answers make no difference as long as they let the run go on. -/
lemma congr (h : Polled schedule s n frames s') (hgo : ∀ m < n, ¬ (schedule' m).stops = true) :
    Polled schedule' s n frames s' := by
  induction h with
  | start => exact .start
  | @next n _ _ _ _ _ hturn ih =>
    refine (ih fun m hm => hgo m (by omega)).next ?_
    rw [turn_eq_pending_iff] at hturn ⊢
    exact ⟨hgo n (by omega), hturn.2⟩

lemma exists_earlier (h : Polled schedule s n frames s') {m : Nat} (hm : m ≤ n) :
    ∃ frames' s₁, Polled schedule s m frames' s₁ := by
  induction h with
  | start =>
    obtain rfl : m = 0 := by omega
    exact ⟨_, _, .start⟩
  | @next n _ _ _ _ hprior hturn ih =>
    obtain rfl | hle : m = n + 1 ∨ m ≤ n := by omega
    · exact ⟨_, _, hprior.next hturn⟩
    · exact ih hle

end Polled

/-- The last poll of a run. -/
theorem exists_last_poll (schedule : Schedule) (s : Search) :
    ∃ n frames s', Polled schedule s n frames s' ∧
      turn (schedule n) frames s' = .ended (s.solve schedule) := by
  have hstart : Polled schedule s 0 [] { s with log := [] } := .start
  obtain ⟨n, frames, s', result, hs', hend⟩ := hstart.exists_last
  rw [hs'.solve_eq_of_ended hend]
  exact ⟨n, frames, s', hs', hend⟩

end Search

end Dpll
