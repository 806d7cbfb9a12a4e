import Dpll.Proofs.Numbering
import Dpll.Proofs.Search.Steadiness
import Dpll.Proofs.Solution
import Dpll.Proofs.Stack

/-!
Values looked up by id. The list of a solution is ascending, so that a search by halves finds an id
in it. Main statement: over symbols that were declared in any order, and after any calls and runs
whatever they came to, a solution lists the declared ids and no others, and what is found for an id
is the value that the trail has for its symbol.
-/

namespace Dpll

namespace Solution

/-- A search for keys in ascending lists. A place that it gives holds the key, and it gives one if
there is any; nothing is said of which, or of other lists. -/
structure Finds (find : List Nat → Nat → Option Nat) : Prop where
  found : ∀ keys key i, keys.Pairwise (· ≤ ·) → find keys key = some i → keys[i]? = some key
  missing : ∀ keys key, keys.Pairwise (· ≤ ·) → find keys key = none → key ∉ keys

/-- What a solution says of an id, where the id is looked for among the ids. -/
def valueBy (find : List Nat → Nat → Option Nat) (s : Solution) (id : Nat) : Option Bool :=
  (find (s.assignment.map (·.1)) id).bind fun i => s.assignment[i]?.bind (·.2)

/-- Looks for a key from one place on and in front of another, in the half that it has to be in. -/
def bisectFrom (keys : List Nat) (key low high : Nat) : Option Nat :=
  if low < high then
    let middle := low + (high - low) / 2
    match keys[middle]? with
    | none => none
    | some k =>
      if k = key then some middle
      else if k < key then bisectFrom keys key (middle + 1) high
      else bisectFrom keys key low middle
  else none
termination_by high - low

def bisect (keys : List Nat) (key : Nat) : Option Nat :=
  bisectFrom keys key 0 keys.length

section Bisect

variable {keys : List Nat} {key low high i : Nat}

lemma getElem?_of_bisectFrom (h : bisectFrom keys key low high = some i) : keys[i]? = some key := by
  fun_induction bisectFrom keys key low high with
  | case1 => cases h
  | case2 low high _ middle hmiddle =>
    rw [← Option.some.inj h]
    exact hmiddle
  | case3 low high _ middle k hmiddle hne hlt ih => exact ih h
  | case4 low high _ middle k hmiddle hne hle ih => exact ih h
  | case5 => cases h

lemma le_of_getElem? (hs : keys.Pairwise (· ≤ ·)) {i j a b : Nat} (hi : keys[i]? = some a)
    (hj : keys[j]? = some b) (hij : i ≤ j) : a ≤ b := by
  obtain ⟨hlti, rfl⟩ := List.getElem?_eq_some_iff.mp hi
  obtain ⟨hltj, rfl⟩ := List.getElem?_eq_some_iff.mp hj
  obtain rfl | hij := Nat.eq_or_lt_of_le hij
  · exact Nat.le_refl _
  · exact List.pairwise_iff_getElem.mp hs i j hlti hltj hij

lemma bisectFrom_ne_none (hs : keys.Pairwise (· ≤ ·)) (hi : keys[i]? = some key) (hlow : low ≤ i)
    (hhigh : i < high) (hlength : high ≤ keys.length) : bisectFrom keys key low high ≠ none := by
  fun_induction bisectFrom keys key low high with
  | case1 low high hlt middle hmiddle =>
    rw [List.getElem?_eq_none_iff] at hmiddle
    omega
  | case2 => simp
  | case3 low high hlt middle k hmiddle hne hk ih =>
    -- All places up to the middle hold smaller keys.
    refine ih ?_ hhigh hlength
    by_contra hle
    have := le_of_getElem? hs hi hmiddle (by omega)
    omega
  | case4 low high hlt middle k hmiddle hne hk ih =>
    refine ih hlow ?_ (by omega)
    by_contra hle
    have := le_of_getElem? hs hmiddle hi (by omega)
    omega
  | case5 => omega

theorem finds_bisect : Finds bisect where
  found _ _ _ _ h := getElem?_of_bisectFrom h
  missing keys key hs h hmem := by
    obtain ⟨i, hi⟩ := List.mem_iff_getElem?.mp hmem
    obtain ⟨hlt, -⟩ := List.getElem?_eq_some_iff.mp hi
    exact bisectFrom_ne_none hs hi (Nat.zero_le i) hlt (Nat.le_refl _) h

end Bisect

section Value

variable {s : Solution} {id : Nat} {find : List Nat → Nat → Option Nat}

lemma value_of_not_mem (h : id ∉ s.assignment.map (·.1)) : s.value id = none := by
  have hlookup : s.assignment.lookup id = none := by
    rw [List.lookup_eq_none_iff]
    intro x hx
    rw [bne_iff_ne]
    rintro rfl
    exact h (List.mem_map_of_mem hx)
  rw [value, hlookup]
  rfl

/-- Where the ids ascend, it does not matter how they are searched. -/
lemma Finds.valueBy_eq (hfind : Finds find) (h : (s.assignment.map (·.1)).Pairwise (· < ·))
    (id : Nat) : s.valueBy find id = s.value id := by
  have hle : (s.assignment.map (·.1)).Pairwise (· ≤ ·) := h.imp Nat.le_of_lt
  cases hid : find (s.assignment.map (·.1)) id with
  | none =>
    rw [value_of_not_mem (hfind.missing _ _ hle hid), valueBy, hid]
    rfl
  | some i =>
    have hget := hfind.found _ _ _ hle hid
    rw [List.getElem?_map, Option.map_eq_some_iff] at hget
    obtain ⟨⟨_, b⟩, hentry, rfl⟩ := hget
    have hmem := List.mem_of_getElem? hentry
    rw [valueBy, hid, Option.bind_some, hentry, value,
      lookup_eq_some_of_mem (h.imp Nat.ne_of_lt) hmem]
    rfl

end Value

end Solution

lemma Valuation.getElem?_symbols {v : Valuation} {i id : Nat} (h : v.ids[i]? = some id) :
    v.symbols[i]? = some ⟨id, v.valueAt i⟩ := by
  rw [ids, List.getElem?_map, Array.getElem?_toList, Option.map_eq_some_iff] at h
  obtain ⟨symbol, hs, rfl⟩ := h
  rw [valueAt, hs]
  rfl

namespace Search

/-- The searches over these symbols: any calls may come before the first run, and a run may end in
any way. -/
inductive Over (v : Valuation) : Search → Prop
  | new (clauses : List Clause) (calls : List Call) :
      Over v (new ((Trail.new v clauses).afterAll calls))
  | run {s : Search} (schedule : Schedule) : Over v s → Over v (final (s.solve schedule))

section Ids

variable {v : Valuation} {s s' : Search} {a : List (Nat × Option Bool)} {schedule : Schedule}

lemma trail_final_onTrail {α : Type} (act : EStateM Fault Trail α) (s : Search) :
    (final (onTrail act s)).trail = Trail.final (act s.trail) := by
  unfold onTrail
  cases act s.trail <;> rfl

/-- No operation on a trail changes an id. -/
lemma steady_ids : Steady fun s s' => s'.trail.valuation.ids = s.trail.valuation.ids where
  refl _ := rfl
  trans h h' := h'.trans h
  status s := by
    rw [trail_final_onTrail]
    exact (s.trail.outcome_after .status).ids_eq
  push i b s := by
    rw [trail_final_onTrail]
    exact (s.trail.outcome_after (.push i b)).ids_eq
  pop s := by
    rw [trail_final_onTrail]
    exact (s.trail.outcome_after .pop).ids_eq
  pool _ _ := rfl
  count _ _ := rfl
  record _ _ := rfl

lemma ids_solve (schedule : Schedule) (s : Search) :
    (final (s.solve schedule)).trail.valuation.ids = s.trail.valuation.ids :=
  steady_ids.solve (fun _ => rfl) schedule s

lemma Over.ids_eq (h : Over v s) : s.trail.valuation.ids = v.ids := by
  induction h with
  | new clauses calls => exact Trail.ids_afterAll _ _
  | run schedule _ ih => exact (ids_solve schedule _).trans ih

lemma sat_eq_ofValuation (h : s.solve schedule = .ok (.sat a) s') :
    Solution.sat a = .ofValuation s'.trail.valuation := by
  obtain ⟨n, frames, s₁, -, hend⟩ := exists_last_poll schedule s
  rw [h] at hend
  obtain ⟨-, heq⟩ | ⟨-, ⟨_, _, -, heq⟩ | ⟨b, s₂, -, heq⟩⟩ := turn_ended hend
  · cases heq
  · cases heq
  · obtain ⟨rfl, rfl⟩ := finish_eq_sat heq.symm
    cases heq
    rfl

/-- A solution lists the declared ids, each once and in ascending order. What is found for one of
them, however its place is searched, is the value that its symbol has on the trail, and nothing is
found for another id. -/
theorem solve_sat_lookup {ids : List Nat} {find : List Nat → Nat → Option Nat}
    (hfind : Solution.Finds find) (hs : Over (Numbering.ofList ids).valuation s)
    (hsolve : s.solve schedule = .ok (.sat a) s') :
    (a.map (·.1)).Pairwise (· < ·) ∧ (∀ id, id ∈ a.map (·.1) ↔ id ∈ ids) ∧
      (∀ id ∈ ids, ∃ i, (Numbering.ofList ids).index? id = some i ∧
        s'.trail.valuation.symbols[i]? = some ⟨id, (Solution.sat a).valueBy find id⟩) ∧
      (∀ id ∉ ids, (Solution.sat a).valueBy find id = none) ∧
      ∀ id, (Solution.sat a).value id = (Solution.sat a).valueBy find id := by
  have ht := Numbering.faithful_ofList ids
  have hids : s'.trail.valuation.ids = (Numbering.ofList ids).ids.toList := by
    have hsame := ids_solve schedule s
    rw [hsolve, hs.ids_eq, Numbering.valuation, Valuation.ids_ofIds] at hsame
    exact hsame
  have hnodup : s'.trail.valuation.ids.Nodup := hids ▸ ht.nodup
  have ha := sat_eq_ofValuation hsolve
  have hassignment : a.map (·.1) = s'.trail.valuation.sorted.map (·.id) := by
    rw [← Valuation.ids_assignment, ← ha]
    rfl
  have hascending : (a.map (·.1)).Pairwise (· < ·) := by
    rw [hassignment]
    exact Valuation.pairwise_sorted hnodup
  have hmem : ∀ id, id ∈ a.map (·.1) ↔ id ∈ ids := by
    intro id
    rw [hassignment, (Valuation.perm_ids_sorted _).mem_iff, hids, Array.mem_toList_iff,
      Numbering.mem_ids_ofList]
  have hvalue := fun id => hfind.valueBy_eq (s := .sat a) hascending id
  refine ⟨hascending, hmem, ?_, ?_, fun id => (hvalue id).symm⟩
  · intro id hid
    obtain ⟨i, hi⟩ := Array.mem_iff_getElem?.mp ((Numbering.mem_ids_ofList ids id).mpr hid)
    refine ⟨i, (ht.index?_iff id i).mpr hi, ?_⟩
    rw [← Array.getElem?_toList, ← hids] at hi
    rw [hvalue, ha, Solution.value_ofValuation hnodup hi]
    exact Valuation.getElem?_symbols hi
  · intro id hid
    rw [hvalue]
    exact Solution.value_of_not_mem (mt (hmem id).mp hid)

/-- The clauses `-9 2` and `9` leave 5 open, and 4 is no symbol. -/
theorem solve_sat_lookup_sample :
    ∃ (s : Search) (a : List (Nat × Option Bool)) (s' : Search),
      s.solve .unlimited = .ok (.sat a) s' ∧ a = [(2, some true), (5, none), (9, some true)] ∧
      (∀ id ∈ [9, 2, 9, 5], ∃ i, (Numbering.ofList [9, 2, 9, 5]).index? id = some i ∧
        s'.trail.valuation.symbols[i]? = some ⟨id, (Solution.sat a).valueBy Solution.bisect id⟩) ∧
      (Solution.sat a).valueBy Solution.bisect 4 = none := by
  let clauses : List Clause :=
    [{ literals := [.pack 0 .negative, .pack 1 .positive] }, { literals := [.pack 0 .positive] }]
  have hanswer : answer? ((new (.new (.ofIds [9, 2, 5]) clauses)).solve .unlimited) =
      some (.sat [(2, some true), (5, none), (9, some true)]) := by
    rw [solve_eq, runFrom_eq]
    cbv
  obtain ⟨s', hsolve⟩ := eq_ok_of_answer? hanswer
  have hv : (Numbering.ofList [9, 2, 9, 5]).valuation = .ofIds [9, 2, 5] := by
    rw [Numbering.valuation, Numbering.ids_ofList]
    rfl
  have hover : Over (Numbering.ofList [9, 2, 9, 5]).valuation
      (new (.new (.ofIds [9, 2, 5]) clauses)) := by
    rw [hv]
    exact .new clauses []
  obtain ⟨-, -, hdeclared, hother, -⟩ := solve_sat_lookup Solution.finds_bisect hover hsolve
  exact ⟨_, _, s', hsolve, rfl, hdeclared, hother 4 (by decide)⟩

end Ids

end Search

end Dpll
