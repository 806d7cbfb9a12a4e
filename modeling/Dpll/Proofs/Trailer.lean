import Mathlib
import Dpll.Proofs.Readback

/-!
Trailers. What stands behind the terminator of a clause file decides nothing: with another trailer
the same clauses are read, or the same error is found, and the search comes to the same answer.
Main statement: a trailer is kept as it is but for one line ending at its end, in the formula and
behind the terminator of the report.
-/

namespace Dpll

namespace Formula

/-- Complete lines, of which the last and no other is `0` when it is trimmed. -/
def Terminated (front : String) : Prop :=
  ∃ lines last, front.toList = Text.unlines (lines ++ [last]) ∧
    (∀ line ∈ lines ++ [last], '\n' ∉ line) ∧
    (∀ line ∈ lines, Text.trim line ≠ ['0']) ∧ Text.trim last = ['0']

/-- The second text is the first without the line ending at its end, if there is one. -/
inductive Chomped : String → String → Prop
  | crlf (text : String) : Chomped (text ++ "\r\n") text
  | lf {text : String} (h : text.toList.getLast? ≠ some '\r') : Chomped (text ++ "\n") text
  | none {text : String} (h : text.toList.getLast? ≠ some '\n') : Chomped text text

/-- A text as a trailer. -/
def chomp (text : String) : String :=
  String.ofList (dropLineEnding text.toList)

lemma dropLineEnding_crlf (cs : List Char) : dropLineEnding (cs ++ ['\r', '\n']) = cs := by
  simp [dropLineEnding]

lemma dropLineEnding_lf {cs : List Char} (h : cs.getLast? ≠ some '\r') :
    dropLineEnding (cs ++ ['\n']) = cs := by
  rw [← List.head?_reverse] at h
  rw [dropLineEnding, List.reverse_append, List.reverse_singleton, List.singleton_append]
  -- The first pattern would take a carriage return in front of the line feed as well.
  split
  next front heq =>
    rw [List.cons.injEq] at heq
    rw [heq.2] at h
    exact absurd rfl h
  next front _ heq =>
    rw [List.cons.injEq] at heq
    rw [← heq.2, List.reverse_reverse]
  next _ hne => exact absurd rfl (hne _)

lemma dropLineEnding_none {cs : List Char} (h : cs.getLast? ≠ some '\n') :
    dropLineEnding cs = cs := by
  rw [← List.head?_reverse] at h
  rw [dropLineEnding]
  split
  next front heq =>
    rw [heq] at h
    exact absurd rfl h
  next front _ heq =>
    rw [heq] at h
    exact absurd rfl h
  next => rfl

lemma Chomped.chomp_eq {text trailer : String} (h : Chomped text trailer) :
    chomp text = trailer := by
  cases h with
  | crlf =>
    rw [chomp, String.toList_append]
    exact (congrArg String.ofList (dropLineEnding_crlf _)).trans String.ofList_toList
  | lf h =>
    rw [chomp, String.toList_append]
    exact (congrArg String.ofList (dropLineEnding_lf h)).trans String.ofList_toList
  | none h => rw [chomp, dropLineEnding_none h, String.ofList_toList]

lemma exists_chomped (text : String) : ∃ trailer, Chomped text trailer := by
  by_cases hlf : text.toList.getLast? = some '\n'
  · obtain ⟨line, hline⟩ := List.getLast?_eq_some_iff.mp hlf
    by_cases hcr : line.getLast? = some '\r'
    · obtain ⟨front, rfl⟩ := List.getLast?_eq_some_iff.mp hcr
      have htext : text = String.ofList front ++ "\r\n" := by
        rw [← String.toList_inj, hline]
        simp
      rw [htext]
      exact ⟨_, .crlf _⟩
    · have htext : text = String.ofList line ++ "\n" := by
        rw [← String.toList_inj, hline]
        simp
      rw [htext]
      exact ⟨_, .lf (by rwa [String.toList_ofList])⟩
  · exact ⟨text, .none hlf⟩

lemma chomped_chomp (text : String) : Chomped text (chomp text) := by
  obtain ⟨trailer, h⟩ := exists_chomped text
  rwa [h.chomp_eq]

lemma chomp_append_lf (text : String) :
    chomp (text ++ "\n") = text ↔ text.toList.getLast? ≠ some '\r' := by
  constructor
  · intro h hcr
    obtain ⟨line, hline⟩ := List.getLast?_eq_some_iff.mp hcr
    have htext : text = String.ofList line ++ "\r" := by
      rw [← String.toList_inj, hline]
      simp
    have hcrlf : text ++ "\n" = String.ofList line ++ "\r\n" := by
      rw [htext, String.append_assoc]
      rfl
    rw [hcrlf, (Chomped.crlf _).chomp_eq, htext] at h
    simpa using congrArg String.length h
  · intro h
    exact (Chomped.lf h).chomp_eq

section Terminated

variable {front : String} {f : Formula}

lemma Terminated.span (h : Terminated front) :
    ∃ lines last, ∀ back : String,
      ((front ++ back).toList.splitOn '\n').takeWhile (!isTerminator ·) = lines ∧
        ((front ++ back).toList.splitOn '\n').dropWhile (!isTerminator ·) =
          last :: back.toList.splitOn '\n' := by
  obtain ⟨lines, last, hfront, hlines, hbefore, hlast⟩ := h
  refine ⟨lines, last, fun back => ?_⟩
  rw [String.toList_append, hfront, Text.splitOn_unlines_append hlines, List.append_assoc,
    List.singleton_append]
  refine span_terminator ?_ ((isTerminator_iff last).mpr hlast) _
  intro line hline
  rw [← Bool.not_eq_true, isTerminator_iff]
  exact hbefore line hline

lemma rows_append (h : Terminated front) (back : String) :
    rows (front ++ back).toList = rows front.toList := by
  obtain ⟨lines, last, hspan⟩ := h.span
  have hfront := hspan ""
  rw [String.append_empty] at hfront
  rw [rows, rows, (hspan back).1, hfront.1]

lemma trailerOf_append (h : Terminated front) (back : String) :
    trailerOf (front ++ back).toList = dropLineEnding back.toList := by
  obtain ⟨lines, last, hspan⟩ := h.span
  rw [trailerOf, (hspan back).2, List.drop_one, List.tail_cons, List.intercalate_splitOn]

/-- What is read in front of a trailer is read without it. -/
lemma parse_append (h : Terminated front) (back : String) :
    parse (front ++ back) = (parse front).map fun f => { f with trailer := chomp back } := by
  rw [parse_eq, parse_eq, rows_append h, trailerOf_append h, chomp]
  cases (rows front.toList).mapM fun row =>
      Clause.ofWords (numbering (rows front.toList)) row.line row.words with
  | error e => rfl
  | ok clauses => rfl

lemma trailer_of_parse (h : Terminated front) {back : String}
    (hf : parse (front ++ back) = .ok f) : f.trailer = chomp back := by
  rw [parse_append h] at hf
  cases hfront : parse front with
  | error e =>
    rw [hfront] at hf
    cases hf
  | ok g =>
    rw [hfront] at hf
    cases hf
    rfl

/-- The search does not see the trailer. -/
lemma solve_with_trailer (schedule : Schedule) (f : Formula) (trailer : String) :
    ({ f with trailer } : Formula).solve schedule =
      (f.solve schedule).map fun r => { r with trailer } := by
  have htrail : ({ f with trailer } : Formula).trail = f.trail := rfl
  rw [solve, solve, htrail]
  cases (Search.new f.trail).solve schedule with
  | ok solution s => rfl
  | error stop s => rfl

lemma ofText_append (h : Terminated front) (back : String) :
    Report.ofText (front ++ back) =
      (Report.ofText front).map fun r => { r with trailer := chomp back } := by
  rw [Report.ofText, Report.ofText, parse_append h]
  cases parse front with
  | error e => rfl
  | ok f =>
    change ((_ : Formula).solve .unlimited).mapError Error.stop = _
    rw [solve_with_trailer]
    change _ = ((f.solve .unlimited).mapError Error.stop).map _
    cases f.solve .unlimited with
    | error stop => rfl
    | ok r => rfl

end Terminated

section Head

open Report

lemma trim_valueText_ne (x : Nat × Bool) : Text.trim (valueText x) ≠ ['0'] := by
  have hword : Text.IsWord (Nat.toDigits 10 x.1) := (numeral_toDigits x.1).isWord
  have hblank : Text.isBlank ' ' = true := rfl
  have hflag : Text.words [if x.2 then 'T' else 'F'] = [[if x.2 then 'T' else 'F']] := by
    cases x.2 <;> rfl
  rw [ne_eq, Formula.trim_eq_zero_iff, valueText, hword.words_append_cons hblank, hflag]
  simp

/-- A report is cut off from its trailer by the same rule as a clause file. -/
lemma terminated_head (values : List (Nat × Bool)) : Terminated (head values) := by
  refine ⟨values.map valueText, ['0'], toList_head values, newline_not_mem_head values, ?_, rfl⟩
  intro line hline
  obtain ⟨x, -, rfl⟩ := List.mem_map.mp hline
  exact trim_valueText_ne x

end Head

/-- A trailer decides nothing and is kept as it is but for one line ending at its end. -/
theorem parse_trailer {front : String} (h : Terminated front) :
    (∀ back, ∃ trailer, Chomped back trailer ∧
        parse (front ++ back) = (parse front).map fun f => { f with trailer }) ∧
      (∀ back f, parse (front ++ (back ++ "\n")) = .ok f →
        (f.trailer = back ↔ back.toList.getLast? ≠ some '\r')) ∧
      ∀ back₁ back₂ trailer₁ trailer₂, Chomped back₁ trailer₁ → Chomped back₂ trailer₂ →
        (∃ e, Report.ofText (front ++ back₁) = .error e ∧
          Report.ofText (front ++ back₂) = .error e) ∨
        ∃ solution stats, Terminated (Report.head solution.lines) ∧
          Report.ofText (front ++ back₁) = .ok ⟨solution, trailer₁, stats⟩ ∧
          Report.ofText (front ++ back₂) = .ok ⟨solution, trailer₂, stats⟩ ∧
          Report.render ⟨solution, trailer₁, stats⟩ = Report.head solution.lines ++ trailer₁ ∧
          Report.render ⟨solution, trailer₂, stats⟩ = Report.head solution.lines ++ trailer₂ := by
  refine ⟨?_, ?_, ?_⟩
  · intro back
    exact ⟨chomp back, chomped_chomp back, parse_append h back⟩
  · intro back f hf
    rw [← chomp_append_lf, ← trailer_of_parse h hf]
  · intro back₁ back₂ trailer₁ trailer₂ h₁ h₂
    rw [ofText_append h, ofText_append h, h₁.chomp_eq, h₂.chomp_eq]
    cases Report.ofText front with
    | error e => exact .inl ⟨e, rfl, rfl⟩
    | ok r =>
      right
      exact ⟨r.solution, r.stats, terminated_head _, rfl, rfl, Report.render_eq _,
        Report.render_eq _⟩

/-- The first trailer starts like a terminator, and each has more than one line ending behind it. -/
theorem parse_trailer_sample :
    Terminated "7 3\n\n\t0\r\n" ∧
      (∃ f, parse ("7 3\n\n\t0\r\n" ++ ("x\r" ++ "\n")) = .ok f ∧ f.trailer ≠ "x\r") ∧
      ∃ solution stats,
        Report.ofText ("7 3\n\n\t0\r\n" ++ "0\né\r\r\n") = .ok ⟨solution, "0\né\r", stats⟩ ∧
        Report.ofText ("7 3\n\n\t0\r\n" ++ "x\n\n") = .ok ⟨solution, "x\n", stats⟩ ∧
        Report.render ⟨solution, "0\né\r", stats⟩ = "3 F\n7 T\n0\n0\né\r" := by
  let formula (trailer : String) : Formula :=
    ⟨.ofIds [7, 3], [{ literals := [.pack 0 .positive, .pack 1 .positive] }], trailer⟩
  have hfront : Terminated "7 3\n\n\t0\r\n" :=
    ⟨["7 3".toList, []], "\t0\r".toList, by decide, by decide, by decide, by decide⟩
  have hcr : parse ("7 3\n\n\t0\r\n" ++ ("x\r" ++ "\n")) = .ok (formula "x") := by
    cbv
  have hkept : parse ("7 3\n\n\t0\r\n" ++ "0\né\r\r\n") = .ok (formula "0\né\r") := by
    cbv
  have htext : (Report.ofText ("7 3\n\n\t0\r\n" ++ "0\né\r\r\n")).toOption.map Report.render =
      some "3 F\n7 T\n0\n0\né\r" := by
    rw [Report.ofText_eq hkept, Formula.solve, Search.solve_eq, Search.runFrom_eq]
    cbv
  have h₁ : Chomped "0\né\r\r\n" "0\né\r" := .crlf "0\né\r"
  have hend : "x\n".toList.getLast? ≠ some '\r' := by decide
  have h₂ : Chomped "x\n\n" "x\n" := .lf hend
  obtain ⟨-, hlf, hsame⟩ := parse_trailer hfront
  refine ⟨hfront, ⟨_, hcr, ?_⟩, ?_⟩
  · rw [ne_eq, hlf _ _ hcr]
    decide
  · obtain ⟨e, he, -⟩ | ⟨solution, stats, -, heq₁, heq₂, -⟩ := hsame _ _ _ _ h₁ h₂
    · rw [he] at htext
      cases htext
    · rw [heq₁] at htext
      exact ⟨solution, stats, heq₁, heq₂, Option.some.inj htext⟩

end Formula

end Dpll
