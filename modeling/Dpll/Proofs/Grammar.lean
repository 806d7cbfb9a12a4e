import Mathlib
import Dpll.Proofs.Formula
import Dpll.Proofs.Words

/-!
The grammar of clause files. A word of a clause line is a decimal numeral, perhaps with a minus
sign, of a number that is not zero and fits into a signed word of 64 bits. Main statement: a text
can be read exactly if all words before its terminator are of this kind, and the formula is then
what the numbers of its lines say, over their magnitudes in the order of first appearance.
-/

namespace Dpll

/-- The number that decimal digits spell. -/
def decimal (digits : List Char) : Nat :=
  Nat.ofDigits 10 (digits.reverse.map fun c => c.toNat - '0'.toNat)

/-- At least one digit, perhaps with a minus sign in front, and the number that this spells. -/
inductive Numeral : List Char → Int → Prop
  | plain {digits : List Char} (hne : digits ≠ []) (hdigits : ∀ c ∈ digits, c.isDigit = true) :
      Numeral digits (decimal digits)
  | minus {digits : List Char} (hne : digits ≠ []) (hdigits : ∀ c ∈ digits, c.isDigit = true) :
      Numeral ('-' :: digits) (-(decimal digits : Int))

/-- A word that clause lines may have, and its number. -/
structure Token (word : List Char) (x : Int) : Prop where
  numeral : Numeral word x
  ne_zero : x ≠ 0
  min_le : -2 ^ 63 ≤ x
  le_max : x ≤ 2 ^ 63 - 1

section Word

variable {digits word : List Char} {x : Int} {s : SignedId} {n : Nat}

lemma ofDigitChars_eq (digits : List Char) : Nat.ofDigitChars 10 digits 0 = decimal digits := by
  induction digits using List.reverseRecOn with
  | nil => rfl
  | append_singleton digits c ih =>
    rw [Nat.ofDigitChars_append, ih, Nat.ofDigitChars_cons, Nat.ofDigitChars_nil, decimal, decimal,
      List.reverse_append, List.reverse_singleton, List.singleton_append, List.map_cons,
      Nat.ofDigits_cons]
    push_cast
    omega

lemma natural?_eq_some_iff :
    Text.natural? digits = some n ↔
      (digits ≠ [] ∧ ∀ c ∈ digits, c.isDigit = true) ∧ n = decimal digits := by
  rw [← List.all_eq_true, Text.natural?, ofDigitChars_eq]
  split
  next h => simp [h, eq_comm]
  next h => simp only [reduceCtorEq, h, false_and]

lemma integer?_minus (digits : List Char) :
    Text.integer? ('-' :: digits) = (Text.natural? digits).map fun n : Nat => -(n : Int) := rfl

lemma integer?_plain (hminus : digits.head? ≠ some '-') (hplus : digits.head? ≠ some '+') :
    Text.integer? digits = (Text.natural? digits).map fun n : Nat => (n : Int) := by
  unfold Text.integer?
  split
  · exact absurd rfl hminus
  · exact absurd rfl hplus
  · rfl

lemma head?_ne {c : Char} (hdigits : ∀ c ∈ digits, c.isDigit = true) (hc : c.isDigit = false) :
    digits.head? ≠ some c := by
  intro hhead
  rw [hdigits c (List.mem_of_mem_head? hhead)] at hc
  cases hc

lemma Numeral.head?_ne_plus (h : Numeral word x) : word.head? ≠ some '+' := by
  cases h with
  | plain _ hdigits => exact head?_ne hdigits rfl
  | minus _ _ => simp

/-- Without a plus sign in front, what can be read as a number is a numeral. -/
lemma integer?_eq_some_iff (hplus : word.head? ≠ some '+') :
    Text.integer? word = some x ↔ Numeral word x := by
  constructor
  · intro h
    by_cases hminus : word.head? = some '-'
    · obtain ⟨digits, rfl⟩ := List.head?_eq_some_iff.mp hminus
      rw [integer?_minus] at h
      obtain ⟨n, hn, rfl⟩ := Option.map_eq_some_iff.mp h
      obtain ⟨⟨hne, hdigits⟩, rfl⟩ := natural?_eq_some_iff.mp hn
      exact .minus hne hdigits
    · rw [integer?_plain hminus hplus] at h
      obtain ⟨n, hn, rfl⟩ := Option.map_eq_some_iff.mp h
      obtain ⟨⟨hne, hdigits⟩, rfl⟩ := natural?_eq_some_iff.mp hn
      exact .plain hne hdigits
  · intro h
    cases h with
    | plain hne hdigits =>
      rw [integer?_plain (head?_ne hdigits rfl) hplus,
        natural?_eq_some_iff.mpr ⟨⟨hne, hdigits⟩, rfl⟩]
      rfl
    | minus hne hdigits =>
      rw [integer?_minus, natural?_eq_some_iff.mpr ⟨⟨hne, hdigits⟩, rfl⟩]
      rfl

lemma Numeral.signed64?_eq (h : Numeral word x) :
    Text.signed64? word = if -2 ^ 63 ≤ x ∧ x ≤ 2 ^ 63 - 1 then some x else none := by
  rw [Text.signed64?, (integer?_eq_some_iff h.head?_ne_plus).mpr h]
  by_cases hrange : -2 ^ 63 ≤ x ∧ x ≤ 2 ^ 63 - 1
  · rw [if_pos hrange, Option.filter_some_pos]
    exact decide_eq_true (by omega)
  · rw [if_neg hrange, Option.filter_some_neg]
    exact decide_eq_false (by omega)

/-- A numeral is read as its number taken apart, unless that is zero or out of range. -/
lemma Numeral.ofWord?_eq (h : Numeral word x) :
    SignedId.ofWord? word =
      if x ≠ 0 ∧ -2 ^ 63 ≤ x ∧ x ≤ 2 ^ 63 - 1 then some (.ofInt x) else none := by
  rw [SignedId.ofWord?, if_neg h.head?_ne_plus, h.signed64?_eq]
  by_cases hrange : -2 ^ 63 ≤ x ∧ x ≤ 2 ^ 63 - 1
  · by_cases hne : x ≠ 0
    · rw [if_pos hrange, if_pos ⟨hne, hrange⟩, Option.filter_some_pos (by simpa using hne)]
      rfl
    · rw [if_pos hrange, if_neg fun h => hne h.1, Option.filter_some_neg (by simpa using hne)]
      rfl
  · rw [if_neg hrange, if_neg fun h => hrange h.2]
    rfl

lemma SignedId.ofInt_natCast (hpos : 0 < n) : ofInt n = ⟨.positive, n⟩ := by
  simp [ofInt, hpos, Sign.ofBool]

lemma SignedId.ofInt_neg_natCast (n : Nat) : ofInt (-n) = ⟨.negative, n⟩ := by
  have hneg : ¬ (0 : Int) < -n := by omega
  rw [ofInt, decide_eq_false hneg, Sign.ofBool, Int.natAbs_neg, Int.natAbs_natCast]

/-- What a word is read as is its number taken apart. -/
theorem ofWord?_eq_some_iff :
    SignedId.ofWord? word = some s ↔ ∃ x, Token word x ∧ s = .ofInt x := by
  constructor
  · intro h
    have hplus : word.head? ≠ some '+' := by
      intro hhead
      rw [SignedId.ofWord?, if_pos hhead] at h
      cases h
    have hread := h
    rw [SignedId.ofWord?, if_neg hplus] at hread
    obtain ⟨x, hx, rfl⟩ := Option.map_eq_some_iff.mp hread
    have hnumeral : Numeral word x := by
      rw [← integer?_eq_some_iff hplus]
      exact (Option.filter_eq_some_iff.mp (Option.filter_eq_some_iff.mp hx).1).1
    rw [hnumeral.ofWord?_eq] at h
    split at h
    next hb => exact ⟨x, ⟨hnumeral, hb.1, hb.2.1, hb.2.2⟩, rfl⟩
    next => cases h
  · rintro ⟨x, ⟨hnumeral, hne, hmin, hmax⟩, rfl⟩
    rw [hnumeral.ofWord?_eq, if_pos ⟨hne, hmin, hmax⟩]

end Word

lemma exists_forall₂ {α β : Type} {R : α → β → Prop} {xs : List α} (h : ∀ x ∈ xs, ∃ y, R x y) :
    ∃ ys, List.Forall₂ R xs ys := by
  induction xs with
  | nil => exact ⟨[], .nil⟩
  | cons x xs ih =>
    obtain ⟨⟨y, hy⟩, h⟩ := List.forall_mem_cons.mp h
    obtain ⟨ys, hys⟩ := ih h
    exact ⟨y :: ys, .cons hy hys⟩

/-- The row of a line that is not blank. -/
def Row.ofLine (number : Nat) (line : List Char) : Row :=
  ⟨number, String.ofList (Text.trim line)⟩

namespace Formula

/-- The lines in front of the terminator. -/
def clauseLines (text : String) : List (List Char) :=
  (text.toList.splitOn '\n').takeWhile (Text.trim · ≠ ['0'])

/-- The rows of these lines, the first of which has this number. -/
def rowsOf (first : Nat) (lines : List (List Char)) : List Row :=
  (lines.zipIdx first).filterMap fun (line, number) =>
    match Text.trim line with
    | [] => none
    | line => some ⟨number, String.ofList line⟩

/-- The words of the lines that have any. -/
def wordRows (text : String) : List (List (List Char)) :=
  ((clauseLines text).map Text.words).filter (· ≠ [])

/-- The magnitudes of these numbers in the order of first appearance. -/
def magnitudes (numbers : List (List Int)) : List Nat :=
  (numbers.flatten.map Int.natAbs).eraseDups

/-- Numbers that clause lines can have. -/
def Legible (numbers : List (List Int)) : Prop :=
  ∀ xs ∈ numbers, xs ≠ [] ∧ ∀ x ∈ xs, ∃ word, Token word x

/-- The literal that a number stands for among these ids. -/
def literalOf (ids : List Nat) (x : Int) : Literal :=
  .pack (ids.idxOf x.natAbs) (.ofBool (0 < x))

/-- The formula of these numbers, with a clause for each list of them. -/
def transcribe (numbers : List (List Int)) (trailer : String) : Formula where
  valuation := .ofIds (magnitudes numbers)
  clauses := numbers.map fun xs => { literals := xs.map (literalOf (magnitudes numbers)) }
  trailer := trailer

/-- The formula has the magnitudes of these numbers as its symbols, none of which has a value, and
a clause for each list of numbers, with a literal for each number. -/
structure Transcribes (numbers : List (List Int)) (f : Formula) : Prop where
  valuation_eq : f.valuation = .ofIds (magnitudes numbers)
  clauses : List.Forall₂ (fun xs c => c.cache = {} ∧ List.Forall₂ (fun x l =>
      l.symbol = (magnitudes numbers).idxOf x.natAbs ∧ (l.sign = .positive ↔ 0 < x)) xs c.literals)
    numbers f.clauses
  ne_nil : ∀ c ∈ f.clauses, c.literals ≠ []
  inRange : ∀ c ∈ f.clauses, c.InRange f.valuation.size

lemma isTerminator_iff (line : List Char) :
    isTerminator line = true ↔ Text.trim line = ['0'] :=
  decide_eq_true_iff

/-- A line is a terminator exactly if `0` is its only word. -/
lemma trim_eq_zero_iff (line : List Char) :
    Text.trim line = ['0'] ↔ Text.words line = [['0']] := by
  have hword : Text.IsWord ['0'] := ⟨List.cons_ne_nil _ _, List.forall_mem_singleton.mpr rfl⟩
  exact (Text.words_eq_singleton_iff hword).symm

lemma span_terminator {lines : List (List Char)} {last : List Char}
    (hlines : ∀ line ∈ lines, isTerminator line = false) (hlast : isTerminator last = true)
    (rest : List (List Char)) :
    (lines ++ last :: rest).takeWhile (!isTerminator ·) = lines ∧
      (lines ++ last :: rest).dropWhile (!isTerminator ·) = last :: rest := by
  have hpass : ∀ line ∈ lines, (!isTerminator line) = true := by
    intro line hline
    rw [hlines line hline]
    rfl
  rw [List.takeWhile_append_of_pos hpass, List.dropWhile_append_of_pos hpass, List.takeWhile_cons,
    List.dropWhile_cons, hlast]
  simp

lemma clauseLines_eq (text : String) :
    clauseLines text = (text.toList.splitOn '\n').takeWhile (!isTerminator ·) := by
  rw [clauseLines]
  congr 1
  funext line
  rw [Bool.eq_iff_iff, Bool.not_eq_true', decide_eq_true_iff, ne_eq, ← isTerminator_iff,
    Bool.not_eq_true]

section Rows

variable {first : Nat} {line : List Char} {lines : List (List Char)}

lemma rows_eq (text : String) : rows text.toList = rowsOf 1 (clauseLines text) := by
  rw [clauseLines_eq]
  rfl

/-- The words of a row are those of its line. -/
@[simp] lemma words_ofLine (number : Nat) (line : List Char) :
    (Row.ofLine number line).words = Text.words line := by
  rw [Row.ofLine, Row.words, String.toList_ofList, Text.words_trim]

lemma rowsOf_cons_of_eq_nil (h : Text.words line = []) :
    rowsOf first (line :: lines) = rowsOf (first + 1) lines := by
  rw [rowsOf, List.zipIdx_cons, List.filterMap_cons_none (by simp [Text.trim_eq_nil_iff.mpr h])]
  rfl

lemma rowsOf_cons_of_ne_nil (h : Text.words line ≠ []) :
    rowsOf first (line :: lines) = .ofLine first line :: rowsOf (first + 1) lines := by
  rw [rowsOf, List.zipIdx_cons, List.filterMap_cons_some]
  · rfl
  · cases htrim : Text.trim line with
    | nil => exact absurd (Text.trim_eq_nil_iff.mp htrim) h
    | cons c cs => simp [htrim, Row.ofLine]

lemma words_rowsOf (first : Nat) (lines : List (List Char)) :
    (rowsOf first lines).map (·.words) = (lines.map Text.words).filter (· ≠ []) := by
  induction lines generalizing first with
  | nil => rfl
  | cons line lines ih =>
    rw [List.map_cons]
    by_cases h : Text.words line = []
    · rw [rowsOf_cons_of_eq_nil h, List.filter_cons_of_neg (by simpa using h), ih]
    · rw [rowsOf_cons_of_ne_nil h, List.filter_cons_of_pos (by simpa using h), List.map_cons, ih,
        words_ofLine]

lemma ne_nil_of_mem_rowsOf {row : Row} (h : row ∈ rowsOf first lines) : row.words ≠ [] := by
  have hwords := List.mem_map_of_mem (f := Row.words) h
  rw [words_rowsOf] at hwords
  exact of_decide_eq_true (List.mem_filter.mp hwords).2

lemma words_rows (text : String) : (rows text.toList).map (·.words) = wordRows text := by
  rw [rows_eq, words_rowsOf, wordRows]

end Rows

section Numbers

variable {text : String} {numbers : List (List Int)} {t : Numbering}

lemma literalOfWord_eq (ht : t.Faithful) {word : List Char} {x : Int} (hx : Token word x)
    (hmem : x.natAbs ∈ t.ids.toList) (line : Nat) :
    Clause.literalOfWord t line word = .ok (literalOf t.ids.toList x) := by
  have hword := ofWord?_eq_some_iff.mpr ⟨x, hx, rfl⟩
  have hindex := (ht.index?_eq_some_iff x.natAbs _).mpr ⟨hmem, rfl⟩
  simp only [Clause.literalOfWord, hword, SignedId.ofInt, hindex, literalOf]

lemma mapM_literalOfWord_eq (ht : t.Faithful) {words : List (List Char)} {xs : List Int}
    (hxs : List.Forall₂ Token words xs) (hmem : ∀ x ∈ xs, x.natAbs ∈ t.ids.toList) (line : Nat) :
    words.mapM (Clause.literalOfWord t line) = .ok (xs.map (literalOf t.ids.toList)) := by
  rw [mapM_eq_ok_iff, List.forall₂_map_right_iff]
  induction hxs with
  | nil => exact .nil
  | cons hx _ ih =>
    obtain ⟨hid, hmem⟩ := List.forall_mem_cons.mp hmem
    exact .cons (literalOfWord_eq ht hx hid line) (ih hmem)

lemma ofWords_eq (ht : t.Faithful) {words : List (List Char)} {xs : List Int} (hne : words ≠ [])
    (hxs : List.Forall₂ Token words xs) (hmem : ∀ x ∈ xs, x.natAbs ∈ t.ids.toList) (line : Nat) :
    Clause.ofWords t line words = .ok { literals := xs.map (literalOf t.ids.toList) } := by
  have hmap := mapM_literalOfWord_eq ht hxs hmem line
  cases hxs with
  | nil => exact absurd rfl hne
  | cons hx hxs =>
    rw [Clause.ofWords, hmap]
    rfl

lemma mapM_ofWords_eq (ht : t.Faithful) {rows : List Row} (hne : ∀ row ∈ rows, row.words ≠ [])
    (h : List.Forall₂ (List.Forall₂ Token) (rows.map (·.words)) numbers)
    (hmem : ∀ xs ∈ numbers, ∀ x ∈ xs, x.natAbs ∈ t.ids.toList) :
    rows.mapM (fun row => Clause.ofWords t row.line row.words) =
      .ok (numbers.map fun xs => { literals := xs.map (literalOf t.ids.toList) }) := by
  rw [mapM_eq_ok_iff, List.forall₂_map_right_iff]
  rw [List.forall₂_map_left_iff] at h
  induction h with
  | nil => exact .nil
  | cons hxs _ ih =>
    obtain ⟨hrow, hne⟩ := List.forall_mem_cons.mp hne
    obtain ⟨hids, hmem⟩ := List.forall_mem_cons.mp hmem
    exact .cons (ofWords_eq ht hrow hxs hids _) (ih hne hmem)

lemma filterMap_declared?_eq {words : List (List Char)} {xs : List Int}
    (h : List.Forall₂ Token words xs) : words.filterMap declared? = xs.map Int.natAbs := by
  induction h with
  | nil => rfl
  | @cons word x _ _ hx _ ih =>
    have hword : SignedId.ofWord? word = some (.ofInt x) := ofWord?_eq_some_iff.mpr ⟨x, hx, rfl⟩
    rw [List.filterMap_cons_some (declared?_of_ofWord? hword), ih]
    rfl

/-- The ids that the rows of a file declare are the magnitudes of its numbers. -/
lemma ids_numbering {rows : List Row}
    (h : List.Forall₂ (List.Forall₂ Token) (rows.map (·.words)) numbers) :
    (numbering rows).ids.toList = magnitudes numbers := by
  rw [numbering, Numbering.ids_ofList, magnitudes, List.flatMap_def,
    filterMap_declared?_eq (List.rel_flatten h)]

lemma mem_magnitudes {xs : List Int} (hxs : xs ∈ numbers) {x : Int} (hx : x ∈ xs) :
    x.natAbs ∈ magnitudes numbers := by
  rw [magnitudes, List.mem_eraseDups]
  exact List.mem_map_of_mem (List.mem_flatten.mpr ⟨xs, hxs, hx⟩)

lemma ne_nil_of_mem_wordRows {words : List (List Char)} (h : words ∈ wordRows text) :
    words ≠ [] :=
  of_decide_eq_true (List.mem_filter.mp h).2

/-- Words that are tokens are read as the formula of their numbers. -/
theorem parse_eq_transcribe (h : List.Forall₂ (List.Forall₂ Token) (wordRows text) numbers) :
    parse text = .ok (transcribe numbers (String.ofList (trailerOf text.toList))) := by
  rw [← words_rows] at h
  have hids := ids_numbering h
  have hfaithful : (numbering (rows text.toList)).Faithful := Numbering.faithful_ofList _
  have hne : ∀ row ∈ rows text.toList, row.words ≠ [] := by
    intro row hrow
    exact ne_nil_of_mem_rowsOf (rows_eq text ▸ hrow)
  have hclauses := mapM_ofWords_eq hfaithful hne h fun xs hxs x hx => hids ▸ mem_magnitudes hxs hx
  rw [hids] at hclauses
  rw [parse_eq, hclauses, Numbering.valuation, hids]
  rfl

/-- A text that can be read has words that are tokens, and is read as the formula of their
numbers. -/
theorem parse_eq_ok_iff {f : Formula} :
    parse text = .ok f ↔ ∃ numbers, List.Forall₂ (List.Forall₂ Token) (wordRows text) numbers ∧
      f = transcribe numbers (String.ofList (trailerOf text.toList)) := by
  constructor
  · intro h
    have hrows : ∀ words ∈ wordRows text, ∃ xs, List.Forall₂ Token words xs := by
      rw [← words_rows, List.forall_mem_map]
      intro row hrow
      apply exists_forall₂
      intro word hword
      obtain ⟨s, hs⟩ := exists_ofWord? h hrow hword
      obtain ⟨x, hx, -⟩ := ofWord?_eq_some_iff.mp hs
      exact ⟨x, hx⟩
    obtain ⟨numbers, hnumbers⟩ := exists_forall₂ hrows
    refine ⟨numbers, hnumbers, ?_⟩
    rw [parse_eq_transcribe hnumbers] at h
    cases h
    rfl
  · rintro ⟨numbers, hnumbers, rfl⟩
    exact parse_eq_transcribe hnumbers

lemma ofBool_eq_positive_iff (x : Int) : Sign.ofBool (0 < x) = .positive ↔ 0 < x := by
  by_cases hx : 0 < x
  · simp [hx, Sign.ofBool]
  · rw [decide_eq_false hx]
    simp [hx, Sign.ofBool]

lemma legible (h : List.Forall₂ (List.Forall₂ Token) (wordRows text) numbers) :
    Legible numbers := by
  intro xs hxs
  obtain ⟨words, hwords, hxs⟩ := exists_of_mem_right h hxs
  constructor
  · rintro rfl
    rw [List.forall₂_nil_right_iff] at hxs
    exact ne_nil_of_mem_wordRows hwords hxs
  · intro x hx
    obtain ⟨word, -, hword⟩ := exists_of_mem_right hxs hx
    exact ⟨word, hword⟩

/-- There are not more ids than fit into a literal. -/
lemma Legible.length_le (h : Legible numbers) : (magnitudes numbers).length ≤ SignedId.limit := by
  have hids := Numbering.ids_ofList (numbers.flatten.map Int.natAbs)
  have hbounds : ∀ id ∈ (Numbering.ofList (numbers.flatten.map Int.natAbs)).ids,
      0 < id ∧ id ≤ SignedId.limit := by
    intro id hid
    rw [Numbering.mem_ids_ofList, List.mem_map] at hid
    obtain ⟨x, hx, rfl⟩ := hid
    obtain ⟨xs, hxs, hx⟩ := List.mem_flatten.mp hx
    obtain ⟨word, -, hne, hmin, hmax⟩ := (h xs hxs).2 x hx
    rw [SignedId.limit]
    omega
  have hle := (Numbering.faithful_ofList _).size_le hbounds
  rwa [magnitudes, ← hids, Array.length_toList]

lemma idxOf_lt {xs : List Int} (hxs : xs ∈ numbers) {x : Int} (hx : x ∈ xs) :
    (magnitudes numbers).idxOf x.natAbs < (magnitudes numbers).length :=
  List.idxOf_lt_length_of_mem (mem_magnitudes hxs hx)

lemma Legible.literalOf_eq (h : Legible numbers) {xs : List Int} (hxs : xs ∈ numbers) {x : Int}
    (hx : x ∈ xs) :
    (literalOf (magnitudes numbers) x).symbol = (magnitudes numbers).idxOf x.natAbs ∧
      (literalOf (magnitudes numbers) x).sign = .ofBool (0 < x) := by
  have hlimit : (magnitudes numbers).idxOf x.natAbs ≤ Literal.symbolLimit := by
    have hlt := idxOf_lt hxs hx
    have hlength := h.length_le
    rw [SignedId.limit] at hlength
    rw [Literal.symbolLimit]
    omega
  exact ⟨Literal.symbol_pack hlimit _, Literal.sign_pack hlimit _⟩

lemma Legible.transcribes (h : Legible numbers) (trailer : String) :
    Transcribes numbers (transcribe numbers trailer) where
  valuation_eq := rfl
  clauses := by
    rw [transcribe, List.forall₂_map_right_iff, List.forall₂_same]
    intro xs hxs
    refine ⟨rfl, ?_⟩
    rw [List.forall₂_map_right_iff, List.forall₂_same]
    intro x hx
    obtain ⟨hsymbol, hsign⟩ := h.literalOf_eq hxs hx
    rw [hsymbol, hsign]
    exact ⟨rfl, ofBool_eq_positive_iff x⟩
  ne_nil := by
    rw [transcribe, List.forall_mem_map]
    intro xs hxs
    rw [ne_eq, List.map_eq_nil_iff]
    exact (h xs hxs).1
  inRange := by
    rw [transcribe, List.forall_mem_map]
    intro xs hxs
    rw [Clause.InRange, List.forall_mem_map, Valuation.size_ofIds]
    intro x hx
    rw [(h.literalOf_eq hxs hx).1]
    exact idxOf_lt hxs hx

/-- The grammar of clause files, and the formula that a file is read as. -/
theorem parse_grammar (text : String) :
    ((∃ f, parse text = .ok f) ↔
        ∀ line ∈ clauseLines text, ∀ word ∈ Text.words line, ∃ x, Token word x) ∧
      ∀ f, parse text = .ok f → ∃ numbers,
        List.Forall₂ (List.Forall₂ Token) (wordRows text) numbers ∧ Transcribes numbers f := by
  refine ⟨⟨?_, ?_⟩, ?_⟩
  · rintro ⟨f, hf⟩ line hline word hword
    obtain ⟨numbers, hnumbers, -⟩ := parse_eq_ok_iff.mp hf
    have hwords : Text.words line ∈ wordRows text :=
      List.mem_filter.mpr ⟨List.mem_map_of_mem hline, by simp [List.ne_nil_of_mem hword]⟩
    obtain ⟨xs, -, hxs⟩ := exists_of_mem_left hnumbers hwords
    obtain ⟨x, -, hx⟩ := exists_of_mem_left hxs hword
    exact ⟨x, hx⟩
  · intro h
    have hrows : ∀ words ∈ wordRows text, ∃ xs, List.Forall₂ Token words xs := by
      intro words hwords
      obtain ⟨line, hline, rfl⟩ := List.mem_map.mp (List.mem_filter.mp hwords).1
      exact exists_forall₂ (h line hline)
    obtain ⟨numbers, hnumbers⟩ := exists_forall₂ hrows
    exact ⟨_, parse_eq_transcribe hnumbers⟩
  · intro f hf
    obtain ⟨numbers, hnumbers, rfl⟩ := parse_eq_ok_iff.mp hf
    exact ⟨numbers, hnumbers, (legible hnumbers).transcribes _⟩

/-- Zeros in front and blanks of all kinds are fine, a plus sign is not. -/
theorem parse_grammar_sample :
    (∃ f numbers, parse "\t-9223372036854775808 007\r\n\u2003\n7\n 0 \n+3" = .ok f ∧
      Transcribes numbers f ∧ magnitudes numbers = [9223372036854775808, 7]) ∧
      ¬ ∃ f, parse "-1\n+3\n0\n" = .ok f := by
  constructor
  · have hparse : parse "\t-9223372036854775808 007\r\n\u2003\n7\n 0 \n+3" =
        .ok ⟨.ofIds [9223372036854775808, 7],
          [{ literals := [.pack 0 .negative, .pack 1 .positive] },
            { literals := [.pack 1 .positive] }], "+3"⟩ := by
      cbv
    obtain ⟨numbers, -, hf⟩ := (parse_grammar _).2 _ hparse
    refine ⟨_, numbers, hparse, hf, ?_⟩
    have hids := congrArg Valuation.ids hf.valuation_eq
    rw [Valuation.ids_ofIds, Valuation.ids_ofIds] at hids
    exact hids.symm
  · have hparse : parse "-1\n+3\n0\n" = .error (.malformedToken 2 ['+', '3']) := by
      cbv
    rw [hparse]
    rintro ⟨f, hf⟩
    cases hf

end Numbers

end Formula

end Dpll
