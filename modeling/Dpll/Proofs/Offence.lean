import Mathlib
import Dpll.Proofs.Grammar

/-!
What is wrong with a clause file. All symbols are numbered before the first clause is made, and
lines without words make none, so the only thing that can be wrong is a word that is no token.
Main statement: the error of a text is its first such word, with the number of its line, and it
depends on nothing behind that word.
-/

namespace Dpll

section MapM

variable {α β ε : Type} {f : α → Except ε β} {x : α} {xs : List α} {e : ε}

lemma mapM_cons_of_error (hx : f x = .error e) : (x :: xs).mapM f = .error e := by
  rw [List.mapM_cons, hx]
  rfl

lemma mapM_cons_eq_error_iff {y : β} (hx : f x = .ok y) :
    (x :: xs).mapM f = .error e ↔ xs.mapM f = .error e := by
  rw [List.mapM_cons, hx]
  cases xs.mapM f with
  | error e' => simp [bind, Except.bind]
  | ok ys => simp [bind, Except.bind, pure, Except.pure]

/-- The first step that fails decides. -/
lemma mapM_eq_error_iff :
    xs.mapM f = .error e ↔ ∃ front x back, xs = front ++ x :: back ∧
      (∀ y ∈ front, ∃ z, f y = .ok z) ∧ f x = .error e := by
  constructor
  · intro h
    induction xs with
    | nil => cases h
    | cons x xs ih =>
      cases hx : f x with
      | error e' =>
        rw [mapM_cons_of_error hx] at h
        cases h
        exact ⟨[], x, xs, rfl, nofun, hx⟩
      | ok z =>
        obtain ⟨front, y, back, rfl, hfront, hy⟩ := ih ((mapM_cons_eq_error_iff hx).mp h)
        exact ⟨x :: front, y, back, rfl, List.forall_mem_cons.mpr ⟨⟨z, hx⟩, hfront⟩, hy⟩
  · rintro ⟨front, x, back, rfl, hfront, hx⟩
    induction front with
    | nil => exact mapM_cons_of_error hx
    | cons y front ih =>
      obtain ⟨⟨z, hy⟩, hfront⟩ := List.forall_mem_cons.mp hfront
      exact (mapM_cons_eq_error_iff hy).mpr (ih hfront)

end MapM

section Word

variable {t : Numbering} {line : Nat} {word : List Char} {words : List (List Char)} {e : ParseError}

/-- Every id among these words has an index. -/
def Numbering.Declares (t : Numbering) (words : List (List Char)) : Prop :=
  ∀ word ∈ words, ∀ s, SignedId.ofWord? word = some s → ∃ i, t.index? s.id = some i

lemma ofWord?_eq_none_iff : SignedId.ofWord? word = none ↔ ¬ ∃ x, Token word x := by
  rw [Option.eq_none_iff_forall_ne_some]
  constructor
  · rintro h ⟨x, hx⟩
    exact h _ (ofWord?_eq_some_iff.mpr ⟨x, hx, rfl⟩)
  · rintro h s hs
    obtain ⟨x, hx, -⟩ := ofWord?_eq_some_iff.mp hs
    exact h ⟨x, hx⟩

namespace Clause

lemma literalOfWord_eq_error_iff
    (ht : ∀ s, SignedId.ofWord? word = some s → ∃ i, t.index? s.id = some i) :
    literalOfWord t line word = .error e ↔
      (¬ ∃ x, Token word x) ∧ e = .malformedToken line word := by
  rw [← ofWord?_eq_none_iff, literalOfWord]
  cases hs : SignedId.ofWord? word with
  | none => simp [eq_comm]
  | some s =>
    obtain ⟨i, hi⟩ := ht s hs
    simp [hi]

lemma exists_literalOfWord_iff
    (ht : ∀ s, SignedId.ofWord? word = some s → ∃ i, t.index? s.id = some i) :
    (∃ l, literalOfWord t line word = .ok l) ↔ ∃ x, Token word x := by
  constructor
  · rintro ⟨l, hl⟩
    by_contra hno
    rw [(literalOfWord_eq_error_iff ht).mpr ⟨hno, rfl⟩] at hl
    cases hl
  · intro hx
    cases hl : literalOfWord t line word with
    | error e => exact absurd hx ((literalOfWord_eq_error_iff ht).mp hl).1
    | ok l => exact ⟨l, rfl⟩

lemma ofWords_eq_error_iff_mapM (hne : words ≠ []) :
    ofWords t line words = .error e ↔ words.mapM (literalOfWord t line) = .error e := by
  rw [ofWords]
  cases hmap : words.mapM (literalOfWord t line) with
  | error e' => simp [bind, Except.bind]
  | ok literals =>
    cases mapM_eq_ok_iff.mp hmap with
    | nil => exact absurd rfl hne
    | cons _ _ =>
      constructor
      · intro h
        cases h
      · intro h
        cases h

/-- A line with words can only fail at a word that is no token. -/
lemma ofWords_eq_error_iff (hne : words ≠ []) (ht : t.Declares words) :
    ofWords t line words = .error e ↔ ∃ good bad rest, words = good ++ bad :: rest ∧
      (∀ word ∈ good, ∃ x, Token word x) ∧ (¬ ∃ x, Token bad x) ∧
      e = .malformedToken line bad := by
  rw [ofWords_eq_error_iff_mapM hne, mapM_eq_error_iff]
  constructor
  · rintro ⟨good, bad, rest, rfl, hgood, hbad⟩
    refine ⟨good, bad, rest, rfl, ?_, (literalOfWord_eq_error_iff (ht bad (by simp))).mp hbad⟩
    intro word hword
    exact (exists_literalOfWord_iff (ht word (by simp [hword]))).mp (hgood word hword)
  · rintro ⟨good, bad, rest, rfl, hgood, hbad⟩
    refine ⟨good, bad, rest, rfl, ?_, (literalOfWord_eq_error_iff (ht bad (by simp))).mpr hbad⟩
    intro word hword
    exact (exists_literalOfWord_iff (ht word (by simp [hword]))).mpr (hgood word hword)

lemma exists_ofWords_iff (hne : words ≠ []) (ht : t.Declares words) :
    (∃ c, ofWords t line words = .ok c) ↔ ∀ word ∈ words, ∃ x, Token word x := by
  constructor
  · rintro ⟨c, hc⟩ word hword
    obtain ⟨l, -, hl⟩ := exists_of_mem_left (ofWords_eq_ok hc).2 hword
    exact (exists_literalOfWord_iff (ht word hword)).mp ⟨l, hl⟩
  · intro hwords
    cases hc : ofWords t line words with
    | error e =>
      obtain ⟨good, bad, rest, rfl, -, hbad, -⟩ := (ofWords_eq_error_iff hne ht).mp hc
      exact absurd (hwords bad (by simp)) hbad
    | ok c => exact ⟨c, rfl⟩

end Clause

end Word

namespace Formula

section Rows

variable {first : Nat} {line : List Char} {lines : List (List Char)}

lemma rowsOf_append (first : Nat) (before after : List (List Char)) :
    rowsOf first (before ++ after) =
      rowsOf first before ++ rowsOf (first + before.length) after := by
  rw [rowsOf, List.zipIdx_append, List.filterMap_append]
  rfl

lemma tokens_rowsOf_iff (first : Nat) (lines : List (List Char)) :
    (∀ row ∈ rowsOf first lines, ∀ word ∈ row.words, ∃ x, Token word x) ↔
      ∀ line ∈ lines, ∀ word ∈ Text.words line, ∃ x, Token word x := by
  induction lines generalizing first with
  | nil => simp [rowsOf]
  | cons line lines ih =>
    rw [List.forall_mem_cons]
    by_cases h : Text.words line = []
    · rw [rowsOf_cons_of_eq_nil h, ih, h]
      simp
    · rw [rowsOf_cons_of_ne_nil h, List.forall_mem_cons, ih, words_ofLine]

/-- A row has the number of its line, with the lines that make no row counted. -/
lemma exists_line {front back : List Row} {row : Row}
    (h : rowsOf first lines = front ++ row :: back) :
    ∃ before line after, lines = before ++ line :: after ∧ front = rowsOf first before ∧
      row = .ofLine (first + before.length) line := by
  induction lines generalizing first front with
  | nil => simp [rowsOf] at h
  | cons line lines ih =>
    by_cases hwords : Text.words line = []
    · rw [rowsOf_cons_of_eq_nil hwords] at h
      obtain ⟨before, last, after, rfl, rfl, rfl⟩ := ih h
      refine ⟨line :: before, last, after, rfl, (rowsOf_cons_of_eq_nil hwords).symm, ?_⟩
      rw [List.length_cons, Nat.add_right_comm, Nat.add_assoc]
    · rw [rowsOf_cons_of_ne_nil hwords] at h
      cases front with
      | nil =>
        cases h
        exact ⟨[], line, lines, rfl, rfl, rfl⟩
      | cons first' front =>
        rw [List.cons_append, List.cons.injEq] at h
        obtain ⟨rfl, h⟩ := h
        obtain ⟨before, last, after, rfl, rfl, rfl⟩ := ih h
        refine ⟨line :: before, last, after, rfl, (rowsOf_cons_of_ne_nil hwords).symm, ?_⟩
        rw [List.length_cons, Nat.add_right_comm, Nat.add_assoc]

end Rows

/-- All words of these lines and of the beginning of the next are tokens, but for the last, and no
line here is a terminator. -/
structure Offence (before good : List (List Char)) (bad : List Char) : Prop where
  unterminated : ∀ line ∈ before, Text.trim line ≠ ['0']
  legible : ∀ line ∈ before, ∀ word ∈ Text.words line, ∃ x, Token word x
  good : ∀ word ∈ good, ∃ x, Token word x
  bad : ¬ ∃ x, Token bad x

/-- The text starts with these lines, and the next line is no terminator and starts with these
words. -/
def Begins (text : String) (before : List (List Char)) (words : List (List Char)) : Prop :=
  ∃ line after, text.toList.splitOn '\n' = before ++ line :: after ∧ Text.trim line ≠ ['0'] ∧
    words <+: Text.words line

section Text

variable {text : String} {e : ParseError} {before good : List (List Char)} {bad : List Char}

lemma parse_eq_error_iff_mapM :
    parse text = .error e ↔ (rows text.toList).mapM (fun row =>
      Clause.ofWords (numbering (rows text.toList)) row.line row.words) = .error e := by
  rw [parse_eq]
  cases (rows text.toList).mapM fun row =>
      Clause.ofWords (numbering (rows text.toList)) row.line row.words with
  | error e' => simp [Except.map]
  | ok clauses => simp [Except.map]

lemma declares_words {rows : List Row} {row : Row} (hrow : row ∈ rows) :
    (numbering rows).Declares row.words := by
  intro word hword s hs
  have hmem : s.id ∈ (numbering rows).ids := by
    rw [numbering, Numbering.mem_ids_ofList, List.mem_filterMap]
    exact ⟨word, List.mem_flatMap.mpr ⟨row, hrow, hword⟩, declared?_of_ofWord? hs⟩
  have hindex := (Numbering.faithful_ofList _).index?_eq_some_iff s.id _ |>.mpr
    ⟨Array.mem_toList_iff.mpr hmem, rfl⟩
  exact ⟨_, hindex⟩

lemma clauseLines_eq_append {line : List Char} {after : List (List Char)}
    (h : text.toList.splitOn '\n' = before ++ line :: after)
    (hbefore : ∀ line ∈ before, Text.trim line ≠ ['0']) (hline : Text.trim line ≠ ['0']) :
    ∃ after', clauseLines text = before ++ line :: after' := by
  refine ⟨after.takeWhile (Text.trim · ≠ ['0']), ?_⟩
  rw [clauseLines, h, List.takeWhile_append_of_pos (by simpa using hbefore),
    List.takeWhile_cons_of_pos (by simpa using hline)]

lemma splitOn_eq_append {line : List Char} {after : List (List Char)}
    (h : clauseLines text = before ++ line :: after) :
    (∃ after', text.toList.splitOn '\n' = before ++ line :: after') ∧
      (∀ line ∈ before, Text.trim line ≠ ['0']) ∧ Text.trim line ≠ ['0'] := by
  have hall : ∀ l ∈ before ++ line :: after, Text.trim l ≠ ['0'] := by
    rw [← h, clauseLines]
    intro l hl
    have hpass := List.mem_takeWhile_imp hl
    simpa using hpass
  refine ⟨?_, fun l hl => hall l (by simp [hl]), hall line (by simp)⟩
  have hsplit := List.takeWhile_append_dropWhile
    (p := (Text.trim · ≠ ['0'])) (l := text.toList.splitOn '\n')
  rw [← clauseLines, h] at hsplit
  exact ⟨_, by rw [← hsplit, List.append_assoc]; rfl⟩

lemma exists_offence (h : parse text = .error e) :
    ∃ before good bad, Offence before good bad ∧ Begins text before (good ++ [bad]) ∧
      e = .malformedToken (before.length + 1) bad := by
  obtain ⟨front, row, back, heq, hfront, hrow⟩ :=
    mapM_eq_error_iff.mp (parse_eq_error_iff_mapM.mp h)
  obtain ⟨before, line, after, hlines, rfl, rfl⟩ := exists_line ((rows_eq text).symm.trans heq)
  obtain ⟨⟨after', hsplit⟩, hbefore, hline⟩ := splitOn_eq_append hlines
  have hmem : ∀ row ∈ rows text.toList,
      row.words ≠ [] ∧ (numbering (rows text.toList)).Declares row.words := by
    intro row hrow
    exact ⟨ne_nil_of_mem_rowsOf (rows_eq text ▸ hrow), declares_words hrow⟩
  obtain ⟨hne, hdeclares⟩ := hmem _ (heq ▸ List.mem_append_right _ List.mem_cons_self)
  obtain ⟨good, bad, rest, hwords, hgood, hbad, rfl⟩ :=
    (Clause.ofWords_eq_error_iff hne hdeclares).mp hrow
  rw [words_ofLine] at hwords
  refine ⟨before, good, bad, ⟨hbefore, ?_, hgood, hbad⟩,
    ⟨line, after', hsplit, hline, ⟨rest, by simpa using hwords.symm⟩⟩, ?_⟩
  · rw [← tokens_rowsOf_iff 1]
    intro row hrow
    obtain ⟨hne, hdeclares⟩ := hmem row (heq ▸ List.mem_append_left _ hrow)
    exact (Clause.exists_ofWords_iff hne hdeclares).mp (hfront row hrow)
  · rw [Nat.add_comm]
    rfl

lemma Offence.parse_eq (h : Offence before good bad)
    (hbegins : Begins text before (good ++ [bad])) :
    parse text = .error (.malformedToken (before.length + 1) bad) := by
  -- What is declared depends on the rows behind the offence too, but the ids of a row's own words
  -- always are, and it needs no others.
  obtain ⟨line, after, hsplit, hline, rest, hwords⟩ := hbegins
  obtain ⟨after', hlines⟩ := clauseLines_eq_append hsplit h.unterminated hline
  have hne : Text.words line ≠ [] := by
    rw [← hwords]
    simp
  have hrows : rows text.toList = rowsOf 1 before ++
      .ofLine (1 + before.length) line :: rowsOf (1 + before.length + 1) after' := by
    rw [rows_eq, hlines, rowsOf_append, rowsOf_cons_of_ne_nil hne]
  rw [parse_eq_error_iff_mapM, mapM_eq_error_iff]
  refine ⟨_, _, _, hrows, ?_, ?_⟩
  · intro row hrow
    have hdeclares := declares_words (hrows ▸ List.mem_append_left _ hrow)
    have htokens := (tokens_rowsOf_iff 1 before).mpr h.legible row hrow
    exact (Clause.exists_ofWords_iff (ne_nil_of_mem_rowsOf hrow) hdeclares).mpr htokens
  · have hdeclares := declares_words (hrows ▸ List.mem_append_right _ List.mem_cons_self)
    rw [words_ofLine] at hdeclares ⊢
    refine (Clause.ofWords_eq_error_iff hne hdeclares).mpr ⟨good, bad, rest, ?_, h.good, h.bad, ?_⟩
    · simpa using hwords.symm
    · rw [Nat.add_comm]
      rfl

/-- The error of a text is its first word that is no token, whatever stands behind that word. -/
theorem parse_error (h : parse text = .error e) :
    ∃ before good bad, Offence before good bad ∧ Begins text before (good ++ [bad]) ∧
      e = .malformedToken (before.length + 1) bad ∧
      ∀ text', Begins text' before (good ++ [bad]) → parse text' = .error e := by
  obtain ⟨before, good, bad, hoffence, hbegins, rfl⟩ := exists_offence h
  exact ⟨before, good, bad, hoffence, hbegins, rfl, fun _ => hoffence.parse_eq⟩

/-- The word `0` is no token, and alone on its line it would be the terminator. What stands behind
it may change. -/
theorem parse_error_sample :
    parse "5\n\n-7 0 x\n0\n" = .error (.malformedToken 3 ['0']) ∧
      ∃ before good bad, Offence before good bad ∧
        Begins "5\n\n-7 0 x\n0\n" before (good ++ [bad]) ∧
        Begins "5\n\n\t-7 0\r\n+1" before (good ++ [bad]) ∧
        parse "5\n\n\t-7 0\r\n+1" = .error (.malformedToken 3 ['0']) := by
  have hparse : parse "5\n\n-7 0 x\n0\n" = .error (.malformedToken 3 ['0']) := by
    cbv
  have hlines : "5\n\n-7 0 x\n0\n".toList.splitOn '\n' =
      [['5'], []] ++ [['-', '7', ' ', '0', ' ', 'x'], ['0'], []] := by
    cbv
  have hagain : "5\n\n\t-7 0\r\n+1".toList.splitOn '\n' =
      [['5'], []] ++ [['\t', '-', '7', ' ', '0', '\r'], ['+', '1']] := by
    cbv
  obtain ⟨before, good, bad, hoffence, hbegins, herror, hstable⟩ := parse_error hparse
  obtain ⟨hlength, rfl⟩ : before.length = 2 ∧ bad = ['0'] := by
    simpa [eq_comm] using herror
  obtain ⟨line, after, hsplit, -, rest, hwords⟩ := hbegins
  obtain ⟨rfl, htail⟩ := List.append_inj (hlines.symm.trans hsplit) hlength.symm
  obtain ⟨rfl, -⟩ := List.cons.inj htail
  have hgood : good = [['-', '7']] := by
    have hthree : good ++ [['0']] ++ rest = [['-', '7'], ['0'], ['x']] := hwords
    obtain _ | ⟨word, _ | ⟨word', good⟩⟩ := good
    · simp at hthree
    · rw [(List.cons.inj hthree).1]
    · obtain ⟨-, rfl, -⟩ : word = ['-', '7'] ∧ word' = ['0'] ∧ good ++ ['0'] :: rest = [['x']] := by
        simpa using hthree
      exact absurd (hoffence.good ['0'] (by simp)) hoffence.bad
  have hbegins : Begins "5\n\n-7 0 x\n0\n" [['5'], []] (good ++ [['0']]) := by
    rw [hgood]
    exact ⟨_, _, hlines, by decide, by decide⟩
  have hchanged : Begins "5\n\n\t-7 0\r\n+1" [['5'], []] (good ++ [['0']]) := by
    rw [hgood]
    exact ⟨_, _, hagain, by decide, by decide⟩
  exact ⟨hparse, _, _, _, hoffence, hbegins, hchanged, hstable _ hchanged⟩

end Text

end Formula

end Dpll
