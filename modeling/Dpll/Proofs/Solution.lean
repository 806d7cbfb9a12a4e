import Dpll.Proofs.Search.Answer

/-!
Solutions by id. A solution lists values beside ids, in the order of the ids, and a value is looked
up by the id alone. Main statements: where ids are unique, the order is strict, and what is found
for an id is the value of the symbol that has it.
-/

namespace Dpll

namespace Valuation

variable {v : Valuation}

lemma ids_assignment (v : Valuation) :
    (Solution.ofValuation v).assignment.map (·.1) = v.sorted.map (·.id) := by
  simp [Solution.ofValuation, Solution.assignment]

lemma perm_ids_sorted (v : Valuation) : (v.sorted.map (·.id)).Perm v.ids :=
  v.perm_sorted.map _

lemma pairwise_sorted (h : v.ids.Nodup) : (v.sorted.map (·.id)).Pairwise (· < ·) := by
  have hle : (v.sorted.map (·.id)).Pairwise (· ≤ ·) := by
    rw [List.pairwise_map]
    have hsorted : v.sorted.Pairwise fun a b => decide (a.id ≤ b.id) = true :=
      List.pairwise_mergeSort (fun _ _ _ => by simpa using Nat.le_trans)
        (fun a b => by simpa using Nat.le_total a.id b.id) v.symbols.toList
    exact hsorted.imp of_decide_eq_true
  have hne : (v.sorted.map (·.id)).Nodup := v.perm_ids_sorted.nodup_iff.mpr h
  exact (hle.and hne).imp fun h => Nat.lt_of_le_of_ne h.1 h.2

lemma nodup_assignment (h : v.ids.Nodup) :
    ((Solution.ofValuation v).assignment.map (·.1)).Nodup := by
  rw [ids_assignment]
  exact v.perm_ids_sorted.nodup_iff.mpr h

end Valuation

lemma lookup_eq_some_of_mem {α : Type} {l : List (Nat × α)} (hnodup : (l.map (·.1)).Nodup)
    {id : Nat} {x : α} (h : (id, x) ∈ l) : l.lookup id = some x := by
  obtain ⟨front, back, rfl⟩ := List.append_of_mem h
  refine List.lookup_eq_some_iff.mpr ⟨front, back, rfl, ?_⟩
  intro y hy
  rw [bne_iff_ne]
  rintro rfl
  rw [List.map_append, List.map_cons] at hnodup
  exact (List.disjoint_of_nodup_append hnodup) (List.mem_map_of_mem hy) List.mem_cons_self

namespace Solution

variable {v : Valuation} {i id : Nat}

/-- What a solution says of an id is the value of its symbol. -/
theorem value_ofValuation (hids : v.ids.Nodup) (h : v.ids[i]? = some id) :
    (ofValuation v).value id = v.valueAt i := by
  rw [value, lookup_eq_some_of_mem (Valuation.nodup_assignment hids) (Valuation.mem_ofValuation h)]
  rfl

end Solution

end Dpll
