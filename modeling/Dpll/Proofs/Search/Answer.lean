import Dpll.Proofs.Search.Resumption

/-!
What a satisfying answer says. Main statement: the values that an answer gives are the entries of
the trail, the entries that were there before the search among them, and whatever values the other
symbols take every clause is true. It needs nothing of the pool, which may list symbols that had a
value all along.
-/

namespace Dpll

/-- The symbols of an answer that have a value, by their ids. -/
def Solution.values (s : Solution) : List (Nat × Bool) :=
  s.assignment.filterMap fun x => x.2.map (x.1, ·)

/-- Each of these symbols has the value that an answer gives for its id, if it gives one. -/
def Assignment.Respects (σ : Assignment) (ids : List Nat) (a : List (Nat × Option Bool)) : Prop :=
  ∀ i id b, ids[i]? = some id → (id, some b) ∈ a → σ i = b

namespace Valuation

lemma symbols_eq (v : Valuation) :
    v.symbols.toList = (List.range v.size).map fun i => ⟨v.idAt i, v.valueAt i⟩ := by
  apply List.ext_getElem
  · simp [size]
  · intro i hi _
    have hs : v.symbols[i]? = some v.symbols[i] := Array.getElem?_eq_getElem hi
    simp [idAt, valueAt, hs]

lemma perm_sorted (v : Valuation) : v.sorted.Perm v.symbols.toList :=
  List.mergeSort_perm _ _

lemma perm_values (v : Valuation) :
    (Solution.ofValuation v).values.Perm
      ((List.range v.size).filterMap fun i => (v.valueAt i).map (v.idAt i, ·)) := by
  have hperm : (v.sorted.map fun s => (s.id, s.value)).Perm
      ((List.range v.size).map fun i => (v.idAt i, v.valueAt i)) := by
    have h := v.perm_sorted.map fun s => (s.id, s.value)
    rwa [symbols_eq, List.map_map] at h
  have h := hperm.filterMap fun x => x.2.map (x.1, ·)
  rwa [List.filterMap_map (l := List.range v.size)] at h

/-- The list of a solution has each id beside the value of its symbol. -/
lemma mem_ofValuation {v : Valuation} {i id : Nat} (hid : v.ids[i]? = some id) :
    (id, v.valueAt i) ∈ (Solution.ofValuation v).assignment := by
  obtain ⟨hi, -⟩ := List.getElem?_eq_some_iff.mp hid
  rw [length_ids] at hi
  have hmem : (⟨v.idAt i, v.valueAt i⟩ : Symbol) ∈ v.sorted := by
    rw [v.perm_sorted.mem_iff, symbols_eq]
    exact List.mem_map_of_mem (List.mem_range.mpr hi)
  rw [idAt_eq, List.getD_eq_getElem?_getD, hid] at hmem
  exact List.mem_map_of_mem hmem

end Valuation

namespace Trail.Consistent

variable {p : Problem} {t : Trail}

lemma perm_entries (h : t.Consistent p) :
    ((List.range t.valuation.size).filterMap fun i => (t.valuation.valueAt i).map (⟨i, ·⟩)).Perm
      t.entries := by
  rw [List.perm_ext_iff_of_nodup]
  · rintro ⟨i, b⟩
    rw [← h.value_iff, List.mem_filterMap]
    constructor
    · rintro ⟨j, -, hj⟩
      obtain ⟨x, hx, heq⟩ := Option.map_eq_some_iff.mp hj
      cases heq
      exact hx
    · intro hb
      exact ⟨i, List.mem_range.mpr (Valuation.lt_size_of_valueAt hb), by rw [hb]; rfl⟩
  · apply List.Nodup.filterMap _ List.nodup_range
    rintro i j ⟨k, b⟩ hi hj
    obtain ⟨_, -, heq⟩ := Option.map_eq_some_iff.mp hi
    obtain ⟨_, -, heq'⟩ := Option.map_eq_some_iff.mp hj
    cases heq
    cases heq'
    rfl
  · exact h.nodup.of_map

lemma perm_values (h : t.Consistent p) :
    (Solution.ofValuation t.valuation).values.Perm
      (t.entries.map fun e => (p.ids.getD e.symbol 0, e.value)) := by
  refine t.valuation.perm_values.trans ?_
  have hperm := h.perm_entries.map fun e => (p.ids.getD e.symbol 0, e.value)
  rw [List.map_filterMap] at hperm
  refine .trans (.of_eq ?_) hperm
  apply List.filterMap_congr
  intro i _
  rw [Valuation.idAt_eq, h.ids_eq, Option.map_map]
  rfl

lemma extends_of_respects (h : t.Consistent p) {σ : Assignment} {a : List (Nat × Option Bool)}
    (ha : .sat a = Solution.ofValuation t.valuation) (hσ : σ.Respects p.ids a) :
    σ.Extends t.valuation := by
  intro i b hb
  have hi := Valuation.lt_size_of_valueAt hb
  rw [h.size_eq] at hi
  obtain ⟨id, hid⟩ : ∃ id, p.ids[i]? = some id := ⟨_, List.getElem?_eq_getElem hi⟩
  apply hσ i id b hid
  rw [← h.ids_eq] at hid
  have hmem := Valuation.mem_ofValuation hid
  rwa [hb, ← ha] at hmem

end Trail.Consistent

namespace Search

variable {p : Problem} {t : Trail} {s s' : Search}

lemma Resumed.kept (ht : t.Consistent p) (h : Resumed (new t) s) :
    s.trail.Consistent p ∧ t.entries <:+ s.trail.entries := by
  induction h with
  | start => exact ⟨ht, List.suffix_rfl⟩
  | @answered _ _ schedule _ _ hsolve ih =>
    have hkept := kept_solve ih.1 schedule
    rw [hsolve] at hkept
    cases hkept with
    | sat hs hbase | unsat hs hbase => exact ⟨hs, ih.2.trans hbase⟩
  | @interrupted _ _ schedule _ _ hsolve ih =>
    have hkept := kept_solve ih.1 schedule
    rw [hsolve] at hkept
    cases hkept with
    | stopped hs hbase => exact ⟨hs, ih.2.trans hbase⟩

/-- A satisfying answer names the entries of the trail and leaves the other symbols free. -/
theorem solve_sat_sound {schedule : Schedule} {a : List (Nat × Option Bool)} (ht : t.Reached p)
    (hs : Resumed (new t) s) (hsolve : s.solve schedule = .ok (.sat a) s') :
    (Solution.sat a).values.Perm
        (s'.trail.entries.map fun e => (p.ids.getD e.symbol 0, e.value)) ∧
      t.entries <:+ s'.trail.entries ∧
      ∀ σ : Assignment, σ.Respects p.ids a → p.IsModel σ := by
  obtain ⟨hcons, hbase⟩ := hs.kept ht.consistent
  have hkept := kept_solve hcons schedule
  rw [hsolve] at hkept
  generalize ha : Solution.sat a = solution at hkept
  cases hkept with
  | unsat => cases ha
  | sat hs' hbase' htrue =>
    refine ⟨hs'.perm_values, hbase.trans hbase', ?_⟩
    intro σ hσ
    refine hs'.isModel htrue ?_
    rw [hs'.agrees_iff]
    exact hs'.extends_of_respects ha hσ

/-- A search over the sample in which 2 was false from the start. -/
theorem solve_sat_sound_sample :
    ∃ t a s', Problem.sample.trail.push 1 false = .ok () t ∧
      (new t).solve .unlimited = .ok (.sat a) s' ∧ [⟨1, false⟩] <:+ s'.trail.entries ∧
      ∀ σ : Assignment, σ.Respects Problem.sample.ids a → Problem.sample.IsModel σ := by
  have hpush : Problem.sample.trail.push 1 false =
      .ok () (Problem.sample.trail.extend ⟨1, false⟩) := rfl
  have hanswer : answer? ((new (Problem.sample.trail.extend ⟨1, false⟩)).solve .unlimited) =
      some (.sat [(1, some false), (2, some false), (3, some true)]) := by
    rw [solve_eq, runFrom_eq]
    cbv
  obtain ⟨s', hsolve⟩ := eq_ok_of_answer? hanswer
  obtain ⟨-, hbase, hmodel⟩ := solve_sat_sound (.push .new hpush) .start hsolve
  exact ⟨_, _, s', hpush, hsolve, hbase, hmodel⟩

end Search

end Dpll
