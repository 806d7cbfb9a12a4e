import Mathlib
import Dpll.Proofs.Rendering
import Dpll.Proofs.Report

/-!
Reports read back. A reader goes through a report line by line: each line gives a symbol its value,
and what stands behind the first line that is `0` is the trailer. Nothing is escaped, so a trailer
may look like values or like the line in front of it. Main statement: the reader finds the values
and the trailer of every report, and so reports with one text agree in both.
-/

namespace Dpll

namespace Text

/-- These lines, with a line feed behind each. -/
def unlines (lines : List (List Char)) : List Char :=
  lines.flatMap (· ++ ['\n'])

lemma splitOn_unlines_append {lines : List (List Char)} (h : ∀ line ∈ lines, '\n' ∉ line)
    (cs : List Char) : (unlines lines ++ cs).splitOn '\n' = lines ++ cs.splitOn '\n' := by
  induction lines with
  | nil => rfl
  | cons line lines ih =>
    obtain ⟨hline, hlines⟩ := List.forall_mem_cons.mp h
    have hcons : unlines (line :: lines) ++ cs = line ++ '\n' :: (unlines lines ++ cs) := by
      simp [unlines]
    rw [hcons, List.splitOn_append_cons_self_of_not_mem hline, ih hlines, List.cons_append]

end Text

namespace Report

/-- Reads a line such as `12 T`. -/
def readValue (line : List Char) : Option (Nat × Bool) :=
  match line.splitOn ' ' with
  | [digits, ['T']] => (Text.natural? digits).map (·, true)
  | [digits, ['F']] => (Text.natural? digits).map (·, false)
  | _ => none

/-- Reads values up to the first line that is `0`, and the lines behind it as the trailer. -/
def readLines : List (List Char) → Option (List (Nat × Bool) × String)
  | [] => none
  | line :: lines =>
    if line = ['0'] then some ([], String.ofList (['\n'].intercalate lines))
    else do
      let value ← readValue line
      let (values, trailer) ← readLines lines
      return (value :: values, trailer)

def read (text : String) : Option (List (Nat × Bool) × String) :=
  readLines (text.toList.splitOn '\n')

/-- The line of a value, without its line feed. -/
def valueText (x : Nat × Bool) : List Char :=
  Nat.toDigits 10 x.1 ++ [' ', if x.2 then 'T' else 'F']

/-- The text of a report in front of its trailer. -/
def head (values : List (Nat × Bool)) : String :=
  String.join (values.map valueLine) ++ "0\n"

lemma toList_valueLine (x : Nat × Bool) : (valueLine x).toList = valueText x ++ ['\n'] := by
  obtain ⟨id, value⟩ := x
  rw [valueLine, valueText, Nat.toString_eq_ofList_toDigits]
  cases value <;> simp

lemma toList_head (values : List (Nat × Bool)) :
    (head values).toList = Text.unlines (values.map valueText ++ [['0']]) := by
  simp [head, Text.unlines, List.flatMap_map, toList_valueLine]

lemma not_mem_toDigits {n : Nat} {c : Char} (hc : c.isDigit = false) : c ∉ Nat.toDigits 10 n := by
  intro h
  rw [isDigit_of_mem_toDigits h] at hc
  cases hc

lemma newline_not_mem_valueText (x : Nat × Bool) : '\n' ∉ valueText x := by
  have hdigits : '\n' ∉ Nat.toDigits 10 x.1 := not_mem_toDigits rfl
  cases hx : x.2 <;> simp [valueText, hx, hdigits]

lemma valueText_ne_zero (x : Nat × Bool) : valueText x ≠ ['0'] := by
  intro h
  have hmem : ' ' ∈ valueText x := List.mem_append_right _ List.mem_cons_self
  rw [h, List.mem_singleton] at hmem
  cases hmem

lemma readValue_valueText (x : Nat × Bool) : readValue (valueText x) = some x := by
  obtain ⟨id, value⟩ := x
  have hblank : ' ' ∉ Nat.toDigits 10 id := not_mem_toDigits rfl
  have hdigits : Text.natural? (Nat.toDigits 10 id) = some id :=
    natural?_eq_some_iff.mpr
      ⟨⟨Nat.toDigits_ne_nil, fun _ => isDigit_of_mem_toDigits⟩, (decimal_toDigits id).symm⟩
  cases value with
  | false =>
    have hsplit : (valueText (id, false)).splitOn ' ' = [Nat.toDigits 10 id, ['F']] :=
      List.splitOn_append_cons_self_of_not_mem hblank ['F']
    simp only [readValue, hsplit, hdigits, Option.map_some]
  | true =>
    have hsplit : (valueText (id, true)).splitOn ' ' = [Nat.toDigits 10 id, ['T']] :=
      List.splitOn_append_cons_self_of_not_mem hblank ['T']
    simp only [readValue, hsplit, hdigits, Option.map_some]

lemma readLines_append (values : List (Nat × Bool)) (lines : List (List Char)) :
    readLines (values.map valueText ++ ['0'] :: lines) =
      some (values, String.ofList (['\n'].intercalate lines)) := by
  induction values with
  | nil => rfl
  | cons x values ih =>
    rw [List.map_cons, List.cons_append, readLines, if_neg (valueText_ne_zero x),
      readValue_valueText, ih]
    rfl

lemma newline_not_mem_head (values : List (Nat × Bool)) :
    ∀ line ∈ values.map valueText ++ [['0']], '\n' ∉ line := by
  intro line hline
  obtain hline | hline := List.mem_append.mp hline
  · obtain ⟨x, -, rfl⟩ := List.mem_map.mp hline
    exact newline_not_mem_valueText x
  · rw [List.mem_singleton.mp hline]
    decide

lemma splitOn_head_append (values : List (Nat × Bool)) (trailer : String) :
    (head values ++ trailer).toList.splitOn '\n' =
      values.map valueText ++ ['0'] :: trailer.toList.splitOn '\n' := by
  rw [String.toList_append, toList_head, Text.splitOn_unlines_append (newline_not_mem_head values),
    List.append_assoc, List.singleton_append]

lemma read_head_append (values : List (Nat × Bool)) (trailer : String) :
    read (head values ++ trailer) = some (values, trailer) := by
  rw [read, splitOn_head_append, readLines_append, List.intercalate_splitOn, String.ofList_toList]

/-- What a report says can be read off its text, and nothing else. -/
theorem read_render :
    (∀ r : Report, read r.render = some (r.solution.lines, r.trailer)) ∧
      ∀ r₁ r₂ : Report, r₁.render = r₂.render ↔
        r₁.solution.lines = r₂.solution.lines ∧ r₁.trailer = r₂.trailer := by
  have hread : ∀ r : Report, read r.render = some (r.solution.lines, r.trailer) := by
    intro r
    rw [render_eq]
    exact read_head_append _ _
  refine ⟨hread, fun r₁ r₂ => ⟨?_, ?_⟩⟩
  · intro h
    have hsame := hread r₁
    rw [h, hread r₂, Option.some.injEq, Prod.mk.injEq] at hsame
    exact ⟨hsame.1.symm, hsame.2.symm⟩
  · rintro ⟨hlines, htrailer⟩
    rw [render_eq, render_eq, hlines, htrailer]

/-- Behind the first line that is `0` nothing is taken for a value. -/
example : read "7 T\n3 F\n0\n0\n7 F\n" = some ([(7, true), (3, false)], "0\n7 F\n") := by
  cbv

end Report

end Dpll
