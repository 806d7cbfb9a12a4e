import Dpll.Proofs.Grammar

/-!
Formulas written as text. A formula is written with a line for each clause, the terminator, and its
trailer with a line ending behind it. Main statement: this is read as the same formula again, with
the same ids, clauses and trailer, if the formula was read from a text at all.
-/

namespace Dpll

/-- The numeral without zeros in front that spells this number. -/
def spelling (x : Int) : List Char :=
  (Sign.ofBool (0 < x)).mark.toList ++ Nat.toDigits 10 x.natAbs

namespace Formula

/-- The text of a formula. -/
def render (f : Formula) : Except Fault String := do
  let lines ← f.clauses.mapM (·.render f.valuation)
  return String.join (lines.map (· ++ "\n")) ++ "0\n" ++ f.trailer ++ "\r\n"

end Formula

section Word

variable {word : List Char} {x : Int}

lemma decimal_toDigits (n : Nat) : decimal (Nat.toDigits 10 n) = n := by
  rw [← ofDigitChars_eq, Nat.ofDigitChars_ten_toDigits]

lemma isDigit_of_mem_toDigits {n : Nat} {c : Char} (h : c ∈ Nat.toDigits 10 n) :
    c.isDigit = true :=
  Nat.isDigit_of_mem_toDigits (by decide) (by decide) h

lemma numeral_toDigits (n : Nat) : Numeral (Nat.toDigits 10 n) n := by
  have h := Numeral.plain Nat.toDigits_ne_nil fun _ => isDigit_of_mem_toDigits (n := n)
  rwa [decimal_toDigits] at h

lemma numeral_minus_toDigits (n : Nat) : Numeral ('-' :: Nat.toDigits 10 n) (-n) := by
  have h := Numeral.minus Nat.toDigits_ne_nil fun _ => isDigit_of_mem_toDigits (n := n)
  rwa [decimal_toDigits] at h

lemma numeral_spelling (x : Int) : Numeral (spelling x) x := by
  by_cases hx : 0 < x
  · have h := numeral_toDigits x.natAbs
    rw [Int.natAbs_of_nonneg (Int.le_of_lt hx)] at h
    simpa [spelling, hx, Sign.ofBool, Sign.mark] using h
  · have h := numeral_minus_toDigits x.natAbs
    rw [Int.ofNat_natAbs_of_nonpos (Int.not_lt.mp hx), Int.neg_neg] at h
    simpa [spelling, hx, Sign.ofBool, Sign.mark] using h

lemma Token.spelling (h : Token word x) : Token (spelling x) x :=
  ⟨numeral_spelling x, h.ne_zero, h.min_le, h.le_max⟩

lemma isBlank_of_isDigit {c : Char} (h : c.isDigit = true) : Text.isBlank c = false := by
  have hc : 48 ≤ c.toNat ∧ c.toNat ≤ 57 := by
    simpa [Char.isDigit, UInt32.le_iff_toNat_le] using h
  have hranges : ∀ range ∈ Text.blanks.ranges,
      (decide (range.1 ≤ c.toNat) && decide (c.toNat ≤ range.2)) = false := by
    simp only [Text.blanks, List.forall_mem_cons, List.not_mem_nil, IsEmpty.forall_iff,
      implies_true, and_true, Bool.and_eq_false_iff, decide_eq_false_iff_not]
    omega
  rw [Text.isBlank, Text.CharClass.contains, List.any_eq_false]
  intro range hrange
  rw [hranges range hrange]
  exact Bool.false_ne_true

lemma Numeral.isWord (h : Numeral word x) : Text.IsWord word := by
  cases h with
  | plain hne hdigits => exact ⟨hne, fun c hc => isBlank_of_isDigit (hdigits c hc)⟩
  | minus hne hdigits =>
    exact ⟨List.cons_ne_nil _ _, List.forall_mem_cons.mpr
      ⟨rfl, fun c hc => isBlank_of_isDigit (hdigits c hc)⟩⟩

end Word

namespace Formula

/-- The line of a clause with these numbers. -/
def lineOf (xs : List Int) : List Char :=
  [' '].intercalate (xs.map spelling)

/-- The text of a formula with these numbers. -/
def written (numbers : List (List Int)) (trailer : List Char) : List Char :=
  numbers.flatMap (fun xs => lineOf xs ++ ['\n']) ++ '0' :: '\n' :: (trailer ++ ['\r', '\n'])

section Render

variable {numbers : List (List Int)} {xs : List Int} {x : Int}

lemma render_literalOf (h : Legible numbers) (hxs : xs ∈ numbers) (hx : x ∈ xs) :
    (Valuation.ofIds (magnitudes numbers)).render (literalOf (magnitudes numbers) x) =
      .ok (String.ofList (spelling x)) := by
  obtain ⟨hsymbol, hsign⟩ := h.literalOf_eq hxs hx
  have hid : (magnitudes numbers)[(magnitudes numbers).idxOf x.natAbs]? = some x.natAbs :=
    List.getElem?_idxOf (mem_magnitudes hxs hx)
  have hrender : (Valuation.ofIds (magnitudes numbers)).id
      ((magnitudes numbers).idxOf x.natAbs) = .ok x.natAbs := by
    simp only [Valuation.id, Valuation.symbolAt, Valuation.ofIds, List.getElem?_toArray,
      List.getElem?_map, hid]
    rfl
  rw [Valuation.render, hsymbol, hsign, hrender, spelling, String.ofList_append,
    String.ofList_toList, ← Nat.toString_eq_ofList_toDigits]
  rfl

lemma render_clause (h : Legible numbers) (hxs : xs ∈ numbers) :
    Clause.render (.ofIds (magnitudes numbers))
        { literals := xs.map (literalOf (magnitudes numbers)) } =
      .ok (String.ofList (lineOf xs)) := by
  have hmap : (xs.map (literalOf (magnitudes numbers))).mapM
      (Valuation.ofIds (magnitudes numbers)).render =
        .ok (xs.map (String.ofList <| spelling ·)) := by
    rw [mapM_eq_ok_iff, List.forall₂_map_left_iff, List.forall₂_map_right_iff, List.forall₂_same]
    intro x hx
    exact render_literalOf h hxs hx
  have hline : " ".intercalate (xs.map (String.ofList <| spelling ·)) =
      String.ofList (lineOf xs) := by
    rw [← String.toList_inj]
    simp [lineOf, Function.comp_def]
  rw [Clause.render, hmap, ← hline]
  rfl

lemma render_transcribe (h : Legible numbers) (trailer : List Char) :
    (transcribe numbers (String.ofList trailer)).render =
      .ok (String.ofList (written numbers trailer)) := by
  let f := transcribe numbers (String.ofList trailer)
  have hmap : f.clauses.mapM (·.render f.valuation) =
      .ok (numbers.map (String.ofList <| lineOf ·)) := by
    rw [mapM_eq_ok_iff, List.forall₂_map_right_iff]
    refine List.forall₂_map_left_iff.mpr (List.forall₂_same.mpr ?_)
    intro xs hxs
    exact render_clause h hxs
  have htext : String.join ((numbers.map (String.ofList <| lineOf ·)).map (· ++ "\n")) ++ "0\n" ++
      String.ofList trailer ++ "\r\n" = String.ofList (written numbers trailer) := by
    rw [← String.toList_inj]
    simp [written, List.flatMap_map, Function.comp_def]
  rw [render, hmap, ← htext]
  rfl

end Render

section Read

variable {numbers : List (List Int)}

lemma words_lineOf (xs : List Int) : Text.words (lineOf xs) = xs.map spelling := by
  apply Text.words_intercalate rfl
  rw [List.forall_mem_map]
  intro x _
  exact (numeral_spelling x).isWord

lemma newline_not_mem_lineOf (xs : List Int) : '\n' ∉ lineOf xs := by
  apply Text.not_mem_intercalate (by decide)
  rw [List.forall_mem_map]
  intro x _ hmem
  have hsolid := (numeral_spelling x).isWord.solid _ hmem
  cases hsolid

/-- No line of a clause can be taken for the terminator. -/
lemma isTerminator_lineOf (h : Legible numbers) {xs : List Int} (hxs : xs ∈ numbers) :
    isTerminator (lineOf xs) = false := by
  rw [← Bool.not_eq_true, isTerminator_iff, trim_eq_zero_iff, words_lineOf]
  intro heq
  obtain ⟨x, rfl, hx⟩ := List.map_eq_singleton_iff.mp heq
  obtain ⟨word, hword⟩ := (h _ hxs).2 x List.mem_cons_self
  have hzero : Token ['0'] x := hx ▸ hword.spelling
  have hread := ofWord?_eq_some_iff.mpr ⟨x, hzero, rfl⟩
  cases hread

lemma splitOn_written (numbers : List (List Int)) (trailer : List Char) :
    (written numbers trailer).splitOn '\n' =
      numbers.map lineOf ++ ['0'] :: (trailer ++ ['\r', '\n']).splitOn '\n' := by
  induction numbers with
  | nil => exact List.splitOn_append_cons_self_of_not_mem (by decide : '\n' ∉ ['0']) _
  | cons xs numbers ih =>
    have hcons : written (xs :: numbers) trailer =
        lineOf xs ++ '\n' :: written numbers trailer := by
      simp [written]
    rw [hcons, List.splitOn_append_cons_self_of_not_mem (newline_not_mem_lineOf xs), ih]
    rfl

lemma span_written (h : Legible numbers) (trailer : List Char) :
    ((written numbers trailer).splitOn '\n').takeWhile (!isTerminator ·) = numbers.map lineOf ∧
      ((written numbers trailer).splitOn '\n').dropWhile (!isTerminator ·) =
        ['0'] :: (trailer ++ ['\r', '\n']).splitOn '\n' := by
  have hlines : ∀ line ∈ numbers.map lineOf, isTerminator line = false := by
    rw [List.forall_mem_map]
    intro xs hxs
    exact isTerminator_lineOf h hxs
  rw [splitOn_written]
  exact span_terminator hlines rfl _

lemma wordRows_written (h : Legible numbers) (trailer : List Char) :
    wordRows (String.ofList (written numbers trailer)) = numbers.map (·.map spelling) := by
  have hwords : Text.words ∘ lineOf = (·.map spelling) := funext words_lineOf
  rw [wordRows, clauseLines_eq, String.toList_ofList, (span_written h trailer).1, List.map_map,
    hwords, List.filter_eq_self, List.forall_mem_map]
  intro xs hxs
  simp [(h xs hxs).1]

lemma trailerOf_written (h : Legible numbers) (trailer : List Char) :
    trailerOf (written numbers trailer) = trailer := by
  rw [trailerOf, (span_written h trailer).2, List.drop_one, List.tail_cons,
    List.intercalate_splitOn, dropLineEnding]
  simp

/-- The text of a formula is read as the formula. -/
theorem parse_written (h : Legible numbers) (trailer : List Char) :
    parse (String.ofList (written numbers trailer)) =
      .ok (transcribe numbers (String.ofList trailer)) := by
  have htokens : List.Forall₂ (List.Forall₂ Token)
      (wordRows (String.ofList (written numbers trailer))) numbers := by
    rw [wordRows_written h, List.forall₂_map_left_iff, List.forall₂_same]
    intro xs hxs
    rw [List.forall₂_map_left_iff, List.forall₂_same]
    intro x hx
    obtain ⟨word, hword⟩ := (h xs hxs).2 x hx
    exact hword.spelling
  have hparse := parse_eq_transcribe htokens
  rwa [String.toList_ofList, trailerOf_written h] at hparse

end Read

/-- What was read from a text is written as a text that is read as the same. -/
theorem parse_render {text : String} {f : Formula} (h : parse text = .ok f) :
    ∃ out, f.render = .ok out ∧ parse out = .ok f := by
  obtain ⟨numbers, hnumbers, rfl⟩ := parse_eq_ok_iff.mp h
  have hlegible := legible hnumbers
  exact ⟨_, render_transcribe hlegible _, parse_written hlegible _⟩

/-- Here the trailer has a line like the terminator and ends in line endings. -/
theorem parse_render_sample :
    ∃ f, parse "-9223372036854775808 007\n\n7\t-1\n0\n0\n5\r\r\n\r\n" = .ok f ∧
      f.trailer = "0\n5\r\r\n" ∧
      f.render = .ok "-9223372036854775808 7\n7 -1\n0\n0\n5\r\r\n\r\n" ∧
      parse "-9223372036854775808 7\n7 -1\n0\n0\n5\r\r\n\r\n" = .ok f := by
  have hparse : parse "-9223372036854775808 007\n\n7\t-1\n0\n0\n5\r\r\n\r\n" =
      .ok ⟨.ofIds [9223372036854775808, 7, 1],
        [{ literals := [.pack 0 .negative, .pack 1 .positive] },
          { literals := [.pack 1 .positive, .pack 2 .negative] }], "0\n5\r\r\n"⟩ := by
    cbv
  have hrender : render ⟨.ofIds [9223372036854775808, 7, 1],
      [{ literals := [.pack 0 .negative, .pack 1 .positive] },
        { literals := [.pack 1 .positive, .pack 2 .negative] }], "0\n5\r\r\n"⟩ =
      .ok "-9223372036854775808 7\n7 -1\n0\n0\n5\r\r\n\r\n" := by
    cbv
  obtain ⟨out, hout, hagain⟩ := parse_render hparse
  rw [hrender] at hout
  cases hout
  exact ⟨_, hparse, rfl, hrender, hagain⟩

end Formula

end Dpll
