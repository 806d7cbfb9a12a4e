import Mathlib.Data.List.Nodup
import Mathlib.Tactic.Lemma
import Dpll.Numbering

/-!
The invariant of a numbering. Its two directions, from index to id and from id to index, say the
same, and no id has two indices. Main statement: numberings of lists have this property, and their
ids are those of the list in the order of first appearance.
-/

namespace Dpll

namespace Numbering

/-- Each id has one index, under which it can be found. -/
structure Faithful (t : Numbering) : Prop where
  nodup : t.ids.toList.Nodup
  index?_iff : ∀ id i, t.index? id = some i ↔ t.ids[i]? = some id

lemma faithful_empty : Faithful {} where
  nodup := List.nodup_nil
  index?_iff := by
    intro id i
    simp [index?]

lemma declare_of_some {t : Numbering} {id i : Nat} (h : t.index? id = some i) :
    t.declare id = (i, t) := by
  simp only [declare, h]

lemma declare_of_none {t : Numbering} {id : Nat} (h : t.index? id = none) :
    t.declare id =
      (t.size, { ids := t.ids.push id, indices := t.indices.insert id t.size }) := by
  simp only [declare, h]

lemma Faithful.not_mem {t : Numbering} (h : t.Faithful) {id : Nat} (hid : t.index? id = none) :
    id ∉ t.ids := by
  intro hmem
  obtain ⟨i, hi⟩ := Array.mem_iff_getElem?.mp hmem
  rw [(h.index?_iff id i).mpr hi] at hid
  cases hid

lemma Faithful.declare {t : Numbering} (h : t.Faithful) (id : Nat) : (t.declare id).2.Faithful := by
  match hid : t.index? id with
  | some i =>
    rw [declare_of_some hid]
    exact h
  | none =>
    have hnew := h.not_mem hid
    rw [declare_of_none hid]
    constructor
    · rw [Array.toList_push, ← List.concat_eq_append, List.nodup_concat, Array.mem_toList_iff]
      exact ⟨hnew, h.nodup⟩
    · intro k i
      have hold := h.index?_iff k i
      simp only [index?, Std.HashMap.getElem?_insert, Array.getElem?_push, size] at hold ⊢
      by_cases hk : id = k
      · subst hk
        by_cases hi : i = t.ids.size
        · simp [hi]
        · have hne : t.ids[i]? ≠ some id := fun hget => hnew (Array.mem_of_getElem? hget)
          simp [hi, Ne.symm hi, hne]
      · by_cases hi : i = t.ids.size
        · subst hi
          simp only [beq_iff_eq, hk, if_false, if_true, hold, Option.some.injEq, iff_false]
          simp
        · simp [hk, hi, hold]

lemma Faithful.index?_eq_some_iff {t : Numbering} (h : t.Faithful) (id i : Nat) :
    t.index? id = some i ↔ id ∈ t.ids.toList ∧ t.ids.toList.idxOf id = i := by
  rw [h.index?_iff, ← Array.getElem?_toList]
  constructor
  · intro hi
    obtain ⟨hlt, rfl⟩ := List.getElem?_eq_some_iff.mp hi
    exact ⟨List.getElem_mem hlt, h.nodup.idxOf_getElem i hlt⟩
  · rintro ⟨hmem, rfl⟩
    exact List.getElem?_idxOf hmem

lemma ids_declare {t : Numbering} (h : t.Faithful) (id : Nat) :
    (t.declare id).2.ids.toList =
      if id ∈ t.ids.toList then t.ids.toList else t.ids.toList ++ [id] := by
  match hid : t.index? id with
  | some i =>
    rw [declare_of_some hid, if_pos ((h.index?_eq_some_iff id i).mp hid).1]
  | none =>
    rw [declare_of_none hid, if_neg (by simpa using h.not_mem hid), Array.toList_push]

lemma faithful_declareAll {t : Numbering} (h : t.Faithful) (ids : List Nat) :
    (t.declareAll ids).Faithful := by
  induction ids generalizing t with
  | nil => exact h
  | cons id ids ih => exact ih (h.declare id)

lemma ids_declareAll {t : Numbering} (h : t.Faithful) (ids : List Nat) :
    (t.declareAll ids).ids.toList =
      t.ids.toList ++ (ids.filter (· ∉ t.ids.toList)).eraseDups := by
  induction ids generalizing t with
  | nil => simp [declareAll]
  | cons id ids ih =>
    change ((t.declare id).2.declareAll ids).ids.toList = _
    rw [ih (h.declare id), ids_declare h]
    by_cases hid : id ∈ t.ids.toList
    · rw [if_pos hid, List.filter_cons_of_neg (by simpa using hid)]
    · rw [if_neg hid, List.filter_cons_of_pos (by simpa using hid), List.eraseDups_cons,
        List.filter_filter, List.append_assoc, List.singleton_append]
      congr 3
      apply List.filter_congr
      intro k _
      rw [Bool.eq_iff_iff]
      simp [and_comm]

theorem faithful_ofList (ids : List Nat) : (ofList ids).Faithful :=
  faithful_declareAll faithful_empty ids

/-- A numbering of a list has its ids in the order of their first appearance. -/
theorem ids_ofList (ids : List Nat) : (ofList ids).ids.toList = ids.eraseDups := by
  rw [ofList, ids_declareAll faithful_empty]
  simp

theorem mem_ids_ofList (ids : List Nat) (id : Nat) : id ∈ (ofList ids).ids ↔ id ∈ ids := by
  rw [← Array.mem_toList_iff, ids_ofList, List.mem_eraseDups]

end Numbering

end Dpll
