import Mathlib
import Dpll.Proofs.Calls

/-!
A trail as a stack. Its entries are the pushes not yet undone, and the values of its symbols say
the same once more; both change together or not at all. Main statement: after any calls the two
agree with a stack that takes each symbol once, a call that is refused leaves the whole trail as it
was, and as many pops as pushes bring back what was there before. Nothing is asked of the clauses.
-/

namespace Dpll

namespace Call

/-- What is on a stack of entries after these calls, the last of which comes first. It has room for
the symbols below `size` and takes none that it holds already. -/
def stack (size : Nat) : List Call → List Entry
  | [] => []
  | .push i b :: earlier =>
    if i < size ∧ i ∉ (stack size earlier).map (·.symbol) then ⟨i, b⟩ :: stack size earlier
    else stack size earlier
  | .pop :: earlier => (stack size earlier).tail
  | .status :: earlier => stack size earlier

end Call

namespace Trail

/-- Makes these assignments one after the other. -/
def pushAll : List Entry → EStateM Fault Trail Unit
  | [] => pure ()
  | e :: entries => do
    push e.symbol e.value
    pushAll entries

/-- Undoes so many assignments and returns their symbols in the order in which they lost their
values. -/
def popMany : Nat → EStateM Fault Trail (List Nat)
  | 0 => pure []
  | n + 1 => do
    let symbol ← pop
    let symbols ← popMany n
    return symbol :: symbols

section Status

variable (t : Trail)

lemma valuation_final_status : (final t.status).valuation = t.valuation := by
  unfold status
  cases t.freshness with
  | swept _ => rfl
  | stale =>
    dsimp only
    cases (Sweep.ofClauses t.valuation t.clauses).status <;> rfl

lemma entries_final_status : (final t.status).entries = t.entries := by
  unfold status
  cases t.freshness with
  | swept _ => rfl
  | stale =>
    dsimp only
    cases (Sweep.ofClauses t.valuation t.clauses).status <;> rfl

end Status

section After

variable {t t' : Trail} {call : Call} {changed : Bool} {v : Valuation}

lemma Outcome.ids_eq (h : Outcome t call changed t') : t'.valuation.ids = t.valuation.ids := by
  cases h with
  | pushed => simp [Trail.extend]
  | popped => simp [Trail.retract]
  | refused => rfl
  | asked => rw [valuation_final_status]

lemma Outcome.mirrored (h : Outcome t call changed t') (ht : t.Mirrored) : t'.Mirrored := by
  cases h with
  | pushed hlt hnone => exact ht.extend hlt hnone
  | popped he => exact ht.retract he
  | refused => exact ht
  | asked =>
    constructor
    · rw [valuation_final_status, entries_final_status]
      exact ht.value_iff
    · rw [entries_final_status]
      exact ht.nodup

lemma pop_of_nil (h : t.entries = []) : t.pop = .error .emptyTrail t := by
  simp only [Trail.pop, h]

lemma ids_afterAll (t : Trail) (calls : List Call) :
    (t.afterAll calls).valuation.ids = t.valuation.ids := by
  induction calls with
  | nil => rfl
  | cons call earlier ih => exact ((t.afterAll earlier).outcome_after call).ids_eq.trans ih

lemma size_afterAll (t : Trail) (calls : List Call) :
    (t.afterAll calls).valuation.size = t.valuation.size := by
  rw [← Valuation.length_ids, ids_afterAll, Valuation.length_ids]

lemma idAt_afterAll (t : Trail) (calls : List Call) (i : Nat) :
    (t.afterAll calls).valuation.idAt i = t.valuation.idAt i := by
  rw [Valuation.idAt_eq, ids_afterAll, Valuation.idAt_eq]

lemma Mirrored.afterAll (h : t.Mirrored) (calls : List Call) : (t.afterAll calls).Mirrored := by
  induction calls with
  | nil => exact h
  | cons call earlier ih => exact ((t.afterAll earlier).outcome_after call).mirrored ih

/-- The entries change as a stack does. -/
lemma entries_eq_stack (hv : ∀ i, v.valueAt i = none) (clauses : List Clause) (calls : List Call) :
    ((Trail.new v clauses).afterAll calls).entries = Call.stack v.size calls := by
  induction calls with
  | nil => rfl
  | cons call earlier ih =>
    have hmirrored := (Mirrored.new hv clauses).afterAll earlier
    have hsize := size_afterAll (Trail.new v clauses) earlier
    rw [Trail.afterAll]
    generalize (Trail.new v clauses).afterAll earlier = t at ih hmirrored hsize ⊢
    -- The trail looks at the value of the symbol where the stack looks through its entries.
    have hfree := hmirrored.valueAt_eq_none_iff_not_mem
    rw [ih] at hfree
    cases call with
    | push i b =>
      rw [Trail.after, Call.stack]
      obtain ⟨hlt, hnone, heq⟩ | ⟨hsome, heq⟩ | ⟨hle, heq⟩ := t.push_cases i b
      · rw [heq, if_pos ⟨hsize ▸ hlt, (hfree i).mp hnone⟩, ← ih]
        rfl
      · rw [heq, if_neg fun h => hsome ((hfree i).mpr h.2)]
        exact ih
      · rw [heq, if_neg fun h => absurd (hsize ▸ h.1) (Nat.not_lt_of_le hle)]
        exact ih
    | pop =>
      rw [Trail.after, Call.stack, ← ih]
      cases he : t.entries with
      | nil =>
        rw [pop_of_nil he]
        exact he
      | cons e entries =>
        rw [pop_eq he, ← he]
        rfl
    | status => rw [Trail.after, Call.stack, entries_final_status, ih]

/-- There are not more entries than symbols. -/
lemma Mirrored.length_le (h : t.Mirrored) : t.length ≤ t.valuation.size := by
  have hsub : t.entries.map (·.symbol) ⊆ List.range t.valuation.size := by
    intro i hi
    obtain ⟨e, he, rfl⟩ := List.mem_map.mp hi
    exact List.mem_range.mpr (h.lt_size he)
  simpa [Trail.length] using (h.nodup.subperm hsub).length_le

lemma Mirrored.pop_cons (h : t.Mirrored) {e : Entry} {entries : List Entry}
    (he : t.entries = e :: entries) :
    ∃ t', t.pop = .ok e.symbol t' ∧ t'.entries = entries ∧
      ∀ i, t'.valuation.valueAt i = if e.symbol = i then none else t.valuation.valueAt i := by
  refine ⟨_, pop_eq he, by simp [Trail.retract, he], ?_⟩
  exact Valuation.valueAt_set (h.lt_size (he ▸ List.mem_cons_self)) none

lemma push_of_size_le {i : Nat} (h : t.valuation.size ≤ i) (b : Bool) :
    t.push i b = .error (.outOfRange i) t := by
  obtain ⟨hlt, -⟩ | ⟨hsome, -⟩ | ⟨-, heq⟩ := t.push_cases i b
  · omega
  · exact absurd (Valuation.valueAt_of_size_le h) hsome
  · exact heq

lemma Mirrored.push_of_mem (h : t.Mirrored) {i : Nat} (hi : i ∈ t.entries.map (·.symbol))
    (b : Bool) : t.push i b = .error (.alreadyAssigned (t.valuation.idAt i)) t := by
  have hsome : t.valuation.valueAt i ≠ none :=
    fun hnone => (h.valueAt_eq_none_iff_not_mem i).mp hnone hi
  obtain ⟨-, hnone, -⟩ | ⟨-, heq⟩ | ⟨hle, -⟩ := t.push_cases i b
  · exact absurd hnone hsome
  · exact heq
  · exact absurd (Valuation.valueAt_of_size_le hle) hsome

end After

section Undoing

variable {t t₁ t₂ : Trail}

lemma bind_eq_ok {α β : Type} {x : EStateM Fault Trail α} {f : α → EStateM Fault Trail β} {b : β} :
    (x >>= f) t = .ok b t₂ ↔ ∃ a t₁, x t = .ok a t₁ ∧ f a t₁ = .ok b t₂ := by
  change EStateM.bind x f t = _ ↔ _
  unfold EStateM.bind
  cases x t with
  | ok a t₁ => simp
  | error e t₁ => simp

lemma popMany_succ {n i : Nat} {symbols : List Nat} (hpops : popMany n t = .ok symbols t₁)
    (hpop : t₁.pop = .ok i t₂) : popMany (n + 1) t = .ok (symbols ++ [i]) t₂ := by
  induction n generalizing t symbols with
  | zero =>
    cases hpops
    exact bind_eq_ok.mpr ⟨i, t₂, hpop, rfl⟩
  | succ n ih =>
    obtain ⟨j, t', hfirst, hrest⟩ := bind_eq_ok.mp hpops
    obtain ⟨rest, t'', hpops, heq⟩ := bind_eq_ok.mp hrest
    cases heq
    exact bind_eq_ok.mpr ⟨j, t', hfirst, bind_eq_ok.mpr ⟨_, t₂, ih hpops, rfl⟩⟩

/-- Pops take back pushes, the last one first. -/
lemma popMany_pushAll {entries : List Entry} (h : pushAll entries t = .ok () t₁) :
    ∃ t₂, popMany entries.length t₁ = .ok (entries.reverse.map (·.symbol)) t₂ ∧
      t₂.entries = t.entries ∧ t₂.valuation = t.valuation := by
  induction entries generalizing t with
  | nil =>
    cases h
    exact ⟨t₁, rfl, rfl, rfl⟩
  | cons e entries ih =>
    obtain ⟨_, t', hpush, hrest⟩ := bind_eq_ok.mp h
    obtain ⟨-, hnone, rfl⟩ := push_ok hpush
    obtain ⟨t₂, hpops, hentries, hvaluation⟩ := ih hrest
    refine ⟨t₂.retract e.symbol, ?_, ?_, ?_⟩
    · rw [List.reverse_cons, List.map_append]
      exact popMany_succ hpops (pop_eq hentries)
    · simp [Trail.retract, hentries, Trail.extend]
    · rw [Trail.retract, hvaluation]
      exact Valuation.set_set_none hnone _

end Undoing

/-- After any calls the entries are those of a stack, and the values are those of the entries. A
call that is refused says why and changes nothing, and pops take back pushes one by one. -/
theorem entries_afterAll {v : Valuation} (hv : ∀ i, v.valueAt i = none) {clauses : List Clause}
    {calls : List Call} {t : Trail} (ht : (Trail.new v clauses).afterAll calls = t) :
    (t.entries = Call.stack v.size calls ∧ (t.entries.map (·.symbol)).Nodup ∧
        (∀ i b, t.valuation.valueAt i = some b ↔ ⟨i, b⟩ ∈ t.entries) ∧ t.length ≤ v.size) ∧
      (∀ e entries, t.entries = e :: entries → ∃ t', t.pop = .ok e.symbol t' ∧
        t'.entries = entries ∧
        ∀ i, t'.valuation.valueAt i = if e.symbol = i then none else t.valuation.valueAt i) ∧
      (t.entries = [] → t.pop = .error .emptyTrail t) ∧
      (∀ i b, i ∈ t.entries.map (·.symbol) →
        t.push i b = .error (.alreadyAssigned (v.idAt i)) t) ∧
      (∀ i b, v.size ≤ i → t.push i b = .error (.outOfRange i) t) ∧
      ∀ entries t₁, pushAll entries t = .ok () t₁ →
        ∃ t₂, popMany entries.length t₁ = .ok (entries.reverse.map (·.symbol)) t₂ ∧
          t₂.entries = t.entries ∧ t₂.valuation = t.valuation := by
  have hmirrored : t.Mirrored := ht ▸ (Mirrored.new hv clauses).afterAll calls
  have hsize : t.valuation.size = v.size := by
    rw [← ht, size_afterAll, Trail.new]
  refine ⟨⟨?_, hmirrored.nodup, hmirrored.value_iff, ?_⟩, ?_, ?_, ?_, ?_, ?_⟩
  · rw [← ht, entries_eq_stack hv]
  · rw [← hsize]
    exact hmirrored.length_le
  · intro e entries he
    exact hmirrored.pop_cons he
  · intro hnil
    exact pop_of_nil hnil
  · intro i b hi
    have hid : t.valuation.idAt i = v.idAt i := by
      rw [← ht, idAt_afterAll, Trail.new]
    rw [← hid]
    exact hmirrored.push_of_mem hi b
  · intro i b hle
    exact push_of_size_le (hsize ▸ hle) b
  · intro entries t₁ hpushes
    exact popMany_pushAll hpushes

/-- A pop of the empty trail, pushes of which two are refused, and a request for the status that a
literal without a symbol brings to an end. -/
theorem entries_afterAll_sample :
    ∃ t t₁, (Trail.new (.ofIds [7, 3, 5]) [{ literals := [.pack 4 .positive] }]).afterAll
        [.status, .push 3 true, .push 2 false, .push 0 false, .push 2 true, .pop] = t ∧
      t.entries = [⟨0, false⟩, ⟨2, true⟩] ∧
      t.push 2 false = .error (.alreadyAssigned 5) t ∧ t.push 3 true = .error (.outOfRange 3) t ∧
      pushAll [⟨1, true⟩] t = .ok () t₁ ∧
      ∃ t₂, popMany 1 t₁ = .ok [1] t₂ ∧ t₂.entries = t.entries := by
  obtain ⟨⟨hentries, -, -, -⟩, -, -, hassigned, hrange, hback⟩ := @entries_afterAll _
    (Valuation.valueAt_ofIds [7, 3, 5]) [{ literals := [.pack 4 .positive] }]
    [.status, .push 3 true, .push 2 false, .push 0 false, .push 2 true, .pop] _ rfl
  obtain ⟨t₂, hpops, hbefore, -⟩ := hback [⟨1, true⟩] _ rfl
  exact ⟨_, _, rfl, hentries, hassigned 2 false (by decide), hrange 3 true (by decide), rfl,
    t₂, hpops, hbefore⟩

end Trail

end Dpll
