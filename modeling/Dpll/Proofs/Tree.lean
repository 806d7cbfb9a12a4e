import Mathlib.Data.List.Basic
import Dpll.File.Tree

/-!
What a write does to files. Main statement: after a write that succeeds, the path reads as the bytes
written, and every other file is as it was.
-/

namespace Dpll

namespace Place

/-- A write here ends up in the file of this name. -/
def LeadsTo (place : Place) (p : List String) : Prop :=
  place = .file p ∨ place = .vacant p

lemma not_leadsTo_slashed (error : FileError) (p : List String) :
    ¬ (Place.slashed error).LeadsTo p := by
  simp [LeadsTo]

lemma not_leadsTo_folder (q p : List String) : ¬ (Place.folder q).LeadsTo p := by
  simp [LeadsTo]

/-- Once it is filled, the place that is meant is a file. -/
lemma LeadsTo.filled {place : Place} {p : List String} (h : place.LeadsTo p) :
    (if place = .vacant p then .file p else place) = .file p := by
  obtain rfl | rfl := h <;> simp

/-- A path that ends at one name would end at any other place of that name as well. -/
lemma stop_eq_ok {place place' : Place} {p : List String} {name : String} {rest : List String}
    (h : place.stop name rest = .ok place') (hp : place'.LeadsTo p) :
    place' = place ∧ ∀ other : Place, other.stop name rest = .ok other := by
  unfold stop at h
  by_cases hend : rest = [] ∧ !decide (maxNameSize < name.utf8ByteSize)
  · rw [if_pos hend] at h
    cases h
    exact ⟨rfl, fun _ => if_pos hend⟩
  · rw [if_neg hend] at h
    split at h
    · cases h
      exact absurd hp (not_leadsTo_slashed _ _)
    · cases h

end Place

namespace FileTree

variable {t t' : FileTree} {path : String} {p q : List String} {bytes : ByteArray}

/-- The file that a write to this path replaces or creates. -/
def target? (t : FileTree) (path : String) : Option (List String) :=
  match t.locate path with
  | .ok (.file p) | .ok (.vacant p) => some p
  | _ => none

lemma target?_eq_some_iff :
    t.target? path = some p ↔ ∃ place, t.locate path = .ok place ∧ place.LeadsTo p := by
  unfold target? Place.LeadsTo
  cases t.locate path with
  | error e => simp
  | ok place => cases place <;> simp

lemma lookup_filter_ne (files : List (List String × ByteArray)) (h : q ≠ p) :
    (files.filter (·.1 ≠ p)).lookup q = files.lookup q := by
  induction files with
  | nil => rfl
  | cons file files ih =>
    obtain ⟨name, bytes⟩ := file
    by_cases hname : name = p
    · have hne : (q == name) = false := by simpa [hname] using h
      rw [List.filter_cons_of_neg (by simpa using hname), ih, List.lookup_cons, hne]
    · rw [List.filter_cons_of_pos (by simpa using hname), List.lookup_cons, List.lookup_cons, ih]

lemma content?_put (t : FileTree) (p q : List String) (bytes : ByteArray) :
    (t.put p bytes).content? q = if q = p then some bytes else t.content? q := by
  unfold content? put
  by_cases h : q = p
  · simp [h]
  · have hne : (q == p) = false := by simpa using h
    rw [List.lookup_cons, hne, if_neg h]
    exact lookup_filter_ne t.files h

/-- A write changes what a folder has under a name only by filling a vacant place. -/
lemma entry_put (t : FileTree) (p : List String) (bytes : ByteArray) (name : String)
    (here : List String) :
    (t.put p bytes).entry name here =
      if t.entry name here = .vacant p then .file p else t.entry name here := by
  have hfolders : (t.put p bytes).folders = t.folders := rfl
  simp only [entry, hfolders, content?_put]
  by_cases hfolder : here ++ [name] ∈ t.folders
  · simp [hfolder]
  by_cases hcontent : (t.content? (here ++ [name])).isSome = true
  · simp [hfolder, hcontent, apply_ite]
  · obtain rfl | hne := eq_or_ne (here ++ [name]) p
    · simp [hfolder, hcontent]
    · simp [hfolder, hcontent, hne]

/-- A path leads to a file that was written there as it has led to the place before. -/
lemma follow_put {here : List String} {parts : List String} {place : Place}
    (h : t.follow here parts = .ok place) (hp : place.LeadsTo p) :
    (t.put p bytes).follow here parts = .ok (.file p) := by
  induction parts generalizing here with
  | nil =>
    cases h
    exact absurd hp (Place.not_leadsTo_folder here p)
  | cons part rest ih =>
    unfold follow at h ⊢
    by_cases hstay : part ∈ ["", "."]
    · rw [if_pos hstay] at h ⊢
      exact ih h
    by_cases hup : part = ".."
    · rw [if_neg hstay, if_pos hup] at h ⊢
      exact ih h
    rw [if_neg hstay, if_neg hup] at h ⊢
    rw [entry_put]
    cases hentry : t.entry part here with
    | folder there =>
      rw [hentry] at h
      exact ih h
    | file _ | vacant _ | slashed _ =>
      rw [hentry] at h
      obtain ⟨rfl, hstop⟩ := Place.stop_eq_ok h hp
      rw [hp.filled]
      exact hstop _

lemma locate_put {place : Place} (h : t.locate path = .ok place) (hp : place.LeadsTo p) :
    (t.put p bytes).locate path = .ok (.file p) := by
  unfold locate at h ⊢
  split at h
  · cases h
  next hsize =>
    rw [if_neg hsize]
    split at h
    · cases h
    · cases h
    · exact follow_put h hp
    · exact follow_put h hp

/-- What it means that these bytes were written to a path and nothing else has happened. -/
structure Replaced (before : FileTree) (path : String) (bytes : ByteArray) (after : FileTree) :
    Prop where
  folders_eq : after.folders = before.folders
  current_eq : after.current = before.current
  content?_eq : ∃ p, before.target? path = some p ∧
    ∀ q, after.content? q = if q = p then some bytes else before.content? q
  read_eq : after.read path = .ok bytes

lemma replaced_put {place : Place} (h : t.locate path = .ok place) (hp : place.LeadsTo p) :
    t.Replaced path bytes (t.put p bytes) := by
  constructor
  · rfl
  · rfl
  · exact ⟨p, target?_eq_some_iff.mpr ⟨place, h, hp⟩, fun q => content?_put t p q bytes⟩
  · rw [read, locate_put h hp]
    simp [content?_put]

/-- A write replaces one file and leaves the others alone. -/
theorem replaced_of_write (h : t.write path bytes = .ok t') : t.Replaced path bytes t' := by
  unfold write at h
  cases hlocate : t.locate path with
  | error e =>
    rw [hlocate] at h
    cases h
  | ok place =>
    rw [hlocate] at h
    cases place with
    | folder _ | slashed _ => cases h
    | file p =>
      cases h
      exact replaced_put hlocate (.inl rfl)
    | vacant p =>
      cases h
      exact replaced_put hlocate (.inr rfl)

end FileTree

end Dpll
