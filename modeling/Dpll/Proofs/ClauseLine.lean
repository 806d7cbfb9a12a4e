import Mathlib
import Dpll.Proofs.Literal
import Dpll.Proofs.Offence
import Dpll.Proofs.Rendering

/-!
Clauses written as lines. The numbers of a line are words of 64 bits with a sign, and an id may need
all 64 bits for itself, so a numbering can hold symbols that a line cannot name, or only with one of
the signs. Main statement: over any numbering, a clause that is written as a line and read again
comes back with its literals if all of them can be named, and otherwise the first that cannot is
the error.
-/

namespace Dpll

namespace SignedId

/-- A line can name it: the id is a number from 1 on that leaves room for the sign in 64 bits. -/
def Readable (s : SignedId) : Prop :=
  s.id ≠ 0 ∧ (s.sign = .positive → s.id ≤ 2 ^ 63 - 1) ∧ (s.sign = .negative → s.id ≤ 2 ^ 63)

instance (s : SignedId) : Decidable s.Readable :=
  inferInstanceAs (Decidable (_ ∧ _ ∧ _))

/-- The word that a line has for it. -/
def word (s : SignedId) : List Char :=
  s.sign.mark.toList ++ Nat.toDigits 10 s.id

section Word

variable {s : SignedId}

lemma word_negative (n : Nat) : word ⟨.negative, n⟩ = '-' :: Nat.toDigits 10 n := by
  simp [word, Sign.mark]

lemma word_positive (n : Nat) : word ⟨.positive, n⟩ = Nat.toDigits 10 n := by
  simp [word, Sign.mark]

lemma numeral_negative (n : Nat) : Numeral (word ⟨.negative, n⟩) (-n) :=
  word_negative n ▸ numeral_minus_toDigits n

lemma numeral_positive (n : Nat) : Numeral (word ⟨.positive, n⟩) n :=
  word_positive n ▸ numeral_toDigits n

/-- The id and the sign of a word are read from it unless they are out of range. -/
lemma ofWord?_word (s : SignedId) : ofWord? s.word = if s.Readable then some s else none := by
  obtain ⟨sign, id⟩ := s
  cases sign with
  | negative =>
    have hrange : (-id : Int) ≠ 0 ∧ -2 ^ 63 ≤ (-id : Int) ∧ (-id : Int) ≤ 2 ^ 63 - 1 ↔
        Readable ⟨.negative, id⟩ := by
      simp [Readable]
    rw [(numeral_negative id).ofWord?_eq, ofInt_neg_natCast]
    simp only [hrange]
  | positive =>
    have hrange : (id : Int) ≠ 0 ∧ -2 ^ 63 ≤ (id : Int) ∧ (id : Int) ≤ 2 ^ 63 - 1 ↔
        Readable ⟨.positive, id⟩ := by
      simp [Readable]
    rw [(numeral_positive id).ofWord?_eq]
    simp only [hrange]
    by_cases hread : Readable ⟨.positive, id⟩
    · rw [if_pos hread, if_pos hread, ofInt_natCast (Nat.pos_of_ne_zero hread.1)]
    · rw [if_neg hread, if_neg hread]

lemma isWord_word (s : SignedId) : Text.IsWord s.word := by
  obtain ⟨sign, id⟩ := s
  cases sign with
  | negative => exact (numeral_negative id).isWord
  | positive => exact (numeral_positive id).isWord

end Word

end SignedId

/-- The sign of a literal with the id of its symbol. -/
def Valuation.signedId (v : Valuation) (l : Literal) : SignedId :=
  ⟨l.sign, v.idAt l.symbol⟩

section Line

variable {v : Valuation} {t : Numbering} {l : Literal} {c : Clause} {line : Nat}

lemma Valuation.render_eq (h : l.symbol < v.size) :
    v.render l = .ok (String.ofList (v.signedId l).word) := by
  have hs : v.symbols[l.symbol]? = some v.symbols[l.symbol] := Array.getElem?_eq_getElem h
  have hid : v.id l.symbol = .ok (v.idAt l.symbol) := by
    simp only [Valuation.id, symbolAt, idAt, hs]
    rfl
  rw [render, hid, SignedId.word, String.ofList_append, String.ofList_toList]
  change Except.ok _ = Except.ok _
  rw [signedId, ← Nat.toString_eq_ofList_toDigits]

namespace Clause

/-- The words of a clause line. -/
def words (v : Valuation) (c : Clause) : List (List Char) :=
  c.literals.map fun l => (v.signedId l).word

lemma size_valuation (t : Numbering) : t.valuation.size = t.size := by
  rw [Numbering.valuation, Valuation.size_ofIds, Array.length_toList, Numbering.size]

lemma render_eq (h : c.InRange v.size) :
    c.render v = .ok (String.ofList ([' '].intercalate (c.words v))) := by
  have hmap : c.literals.mapM v.render =
      .ok (c.literals.map fun l => String.ofList (v.signedId l).word) := by
    rw [mapM_eq_ok_iff, List.forall₂_map_right_iff, List.forall₂_same]
    exact fun l hl => Valuation.render_eq (h l hl)
  have hline : " ".intercalate (c.literals.map fun l => String.ofList (v.signedId l).word) =
      String.ofList ([' '].intercalate (c.words v)) := by
    rw [← String.toList_inj]
    simp [words, Function.comp_def]
  rw [render, hmap, ← hline]
  rfl

lemma parse_line (t : Numbering) (line : Nat) (c : Clause) (v : Valuation) :
    parse t line (String.ofList ([' '].intercalate (c.words v))) = ofWords t line (c.words v) := by
  rw [parse, String.toList_ofList, Text.words_intercalate rfl]
  rw [words, List.forall_mem_map]
  exact fun l _ => (v.signedId l).isWord_word

/-- A literal is read from its word unless it is out of range. -/
lemma literalOfWord_word (ht : t.Faithful) (hl : l.symbol < t.size) :
    literalOfWord t line (t.valuation.signedId l).word =
      if (t.valuation.signedId l).Readable then .ok l
      else .error (.malformedToken line (t.valuation.signedId l).word) := by
  have hid : t.ids[l.symbol]? = some (t.valuation.idAt l.symbol) := by
    rw [Valuation.idAt_eq, Numbering.valuation, Valuation.ids_ofIds, List.getD_eq_getElem?_getD,
      Array.getElem?_toList, Array.getElem?_eq_getElem hl, Option.getD_some]
  by_cases hread : (t.valuation.signedId l).Readable
  · rw [literalOfWord, SignedId.ofWord?_word, if_pos hread, if_pos hread]
    simp only [Valuation.signedId, (ht.index?_iff _ _).mpr hid, l.pack_symbol_sign]
  · rw [literalOfWord, SignedId.ofWord?_word, if_neg hread, if_neg hread]

lemma ofWords_of_readable (ht : t.Faithful) (hc : c.InRange t.size) (hne : c.literals ≠ [])
    (hread : ∀ l ∈ c.literals, (t.valuation.signedId l).Readable) :
    ofWords t line (c.words t.valuation) = .ok { literals := c.literals } := by
  have hmap : (c.words t.valuation).mapM (literalOfWord t line) = .ok c.literals := by
    rw [mapM_eq_ok_iff, words, List.forall₂_map_left_iff, List.forall₂_same]
    intro l hl
    rw [literalOfWord_word ht (hc l hl), if_pos (hread l hl)]
  rw [ofWords, hmap]
  cases hliterals : c.literals with
  | nil => exact absurd hliterals hne
  | cons l literals => rfl

lemma readable_of_ofWords (ht : t.Faithful) (hc : c.InRange t.size) {d : Clause}
    (h : ofWords t line (c.words t.valuation) = .ok d) :
    c.literals ≠ [] ∧ ∀ l ∈ c.literals, (t.valuation.signedId l).Readable := by
  obtain ⟨hne, hwords⟩ := ofWords_eq_ok h
  constructor
  · intro hnil
    rw [words, hnil, List.map_nil, List.forall₂_nil_left_iff] at hwords
    exact hne hwords
  · intro l hl
    obtain ⟨k, -, hk⟩ := exists_of_mem_left hwords (List.mem_map_of_mem hl)
    rw [literalOfWord_word ht (hc l hl)] at hk
    by_contra hnot
    rw [if_neg hnot] at hk
    cases hk

lemma ofWords_of_not_readable (ht : t.Faithful) (hc : c.InRange t.size)
    {front back : List Literal} (heq : c.literals = front ++ l :: back)
    (hfront : ∀ k ∈ front, (t.valuation.signedId k).Readable)
    (hl : ¬ (t.valuation.signedId l).Readable) :
    ofWords t line (c.words t.valuation) =
      .error (.malformedToken line (t.valuation.signedId l).word) := by
  have hwords : c.words t.valuation = front.map (fun k => (t.valuation.signedId k).word) ++
      (t.valuation.signedId l).word :: back.map fun k => (t.valuation.signedId k).word := by
    rw [words, heq, List.map_append, List.map_cons]
  have hne : c.words t.valuation ≠ [] := by
    rw [hwords]
    exact List.append_ne_nil_of_right_ne_nil _ (List.cons_ne_nil _ _)
  rw [ofWords_eq_error_iff_mapM hne, mapM_eq_error_iff]
  refine ⟨_, _, _, hwords, ?_, ?_⟩
  · rw [List.forall_mem_map]
    intro k hk
    have hrange := hc k (heq ▸ List.mem_append_left _ hk)
    exact ⟨k, by rw [literalOfWord_word ht hrange, if_pos (hfront k hk)]⟩
  · have hrange := hc l (heq ▸ List.mem_append_right _ List.mem_cons_self)
    rw [literalOfWord_word ht hrange, if_neg hl]

/-- The line of a clause is read as its literals if there are any and a line can name each of them.
The error is otherwise that there are none, or the first that no line can name. -/
theorem parse_rendered (ids : List Nat) {c : Clause} (hc : c.InRange (Numbering.ofList ids).size)
    (line : Nat) :
    ∃ text, c.render (Numbering.ofList ids).valuation = .ok text ∧
      ((∃ d, parse (.ofList ids) line text = .ok d ∧ d.literals = c.literals) ↔
        c.literals ≠ [] ∧
          ∀ l ∈ c.literals, ((Numbering.ofList ids).valuation.signedId l).Readable) ∧
      (c.literals = [] → parse (.ofList ids) line text = .error (.emptyClause line)) ∧
      ∀ front l back, c.literals = front ++ l :: back →
        (∀ k ∈ front, ((Numbering.ofList ids).valuation.signedId k).Readable) →
        ¬ ((Numbering.ofList ids).valuation.signedId l).Readable →
        ∃ token, (Numbering.ofList ids).valuation.render l = .ok token ∧
          parse (.ofList ids) line text = .error (.malformedToken line token.toList) := by
  have ht := Numbering.faithful_ofList ids
  have hsize := size_valuation (.ofList ids)
  refine ⟨_, render_eq (hsize ▸ hc), ?_, ?_, ?_⟩
  · rw [parse_line]
    constructor
    · rintro ⟨d, hd, -⟩
      exact readable_of_ofWords ht hc hd
    · rintro ⟨hne, hread⟩
      exact ⟨_, ofWords_of_readable ht hc hne hread, rfl⟩
  · intro hnil
    rw [parse_line, words, hnil]
    rfl
  · intro front l back heq hfront hl
    have hrange := hc l (heq ▸ List.mem_append_right _ List.mem_cons_self)
    refine ⟨_, Valuation.render_eq (hsize ▸ hrange), ?_⟩
    rw [parse_line, ofWords_of_not_readable ht hc heq hfront hl, String.toList_ofList]

/-- The id just above the positive range can be named with a minus sign and not without. -/
theorem parse_rendered_sample :
    ∃ t, t = Numbering.ofList [5, 9223372036854775808, 5, 0] ∧
      (∃ text d,
        render t.valuation { literals := [.pack 1 .negative, .pack 0 .positive] } = .ok text ∧
        parse t 3 text = .ok d ∧ d.literals = [.pack 1 .negative, .pack 0 .positive]) ∧
      ∃ text token, render t.valuation
          { literals := [.pack 1 .negative, .pack 1 .positive, .pack 2 .negative] } = .ok text ∧
        t.valuation.render (.pack 1 .positive) = .ok token ∧
        parse t 3 text = .error (.malformedToken 3 token.toList) := by
  have hv : (Numbering.ofList [5, 9223372036854775808, 5, 0]).valuation =
      .ofIds [5, 9223372036854775808, 0] := by
    rw [Numbering.valuation, Numbering.ids_ofList]
    decide
  have hsize : (Numbering.ofList [5, 9223372036854775808, 5, 0]).size = 3 := by
    rw [← size_valuation, hv]
    rfl
  refine ⟨_, rfl, ?_, ?_⟩
  · obtain ⟨text, htext, hiff, -, -⟩ := parse_rendered [5, 9223372036854775808, 5, 0]
      (c := { literals := [.pack 1 .negative, .pack 0 .positive] }) (by rw [hsize]; decide) 3
    rw [hv] at hiff
    obtain ⟨d, hd, hliterals⟩ := hiff.mpr ⟨by decide, by decide⟩
    exact ⟨text, d, htext, hd, hliterals⟩
  · obtain ⟨text, htext, -, -, herror⟩ := parse_rendered [5, 9223372036854775808, 5, 0]
      (c := { literals := [.pack 1 .negative, .pack 1 .positive, .pack 2 .negative] })
      (by rw [hsize]; decide) 3
    obtain ⟨token, htoken, hparse⟩ := herror [.pack 1 .negative] (.pack 1 .positive) _ rfl
      (by rw [hv]; decide) (by rw [hv]; decide)
    exact ⟨text, token, htext, htoken, hparse⟩

end Clause

end Line

end Dpll
