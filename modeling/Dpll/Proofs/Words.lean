import Mathlib.Data.List.TakeWhile
import Mathlib.Tactic.Lemma
import Dpll.Text.Blank

/-!
Words between blanks. Blanks in front, behind and in between leave the words of a text as they
are, and a word alone is its own only word. Main statements: a text has a single word exactly if it
is that word when it is trimmed, and none exactly if nothing is left of it.
-/

namespace Dpll.Text

variable {cs word : List Char}

/-- A text that can be a word: it is not empty and has no blanks. -/
structure IsWord (word : List Char) : Prop where
  ne_nil : word ≠ []
  solid : ∀ c ∈ word, isBlank c = false

@[simp] lemma words_nil : words [] = [] := rfl

lemma words_append_cons {b : Char} (hb : isBlank b = true) (front back : List Char) :
    words (front ++ b :: back) = words front ++ words back := by
  rw [words, List.splitOnP_append_cons front back hb, List.filter_append]
  rfl

lemma words_cons {b : Char} (hb : isBlank b = true) (cs : List Char) :
    words (b :: cs) = words cs :=
  words_append_cons hb [] cs

lemma IsWord.words_eq (h : IsWord word) : words word = [word] := by
  rw [words, List.splitOnP_eq_singleton h.solid]
  simp [h.ne_nil]

lemma IsWord.words_append_cons (h : IsWord word) {b : Char} (hb : isBlank b = true)
    (cs : List Char) : words (word ++ b :: cs) = word :: words cs := by
  rw [Text.words_append_cons hb, h.words_eq]
  rfl

/-- A text that starts with a word is no more than that, or goes on with a blank. -/
lemma IsWord.extend (h : IsWord word) (cs : List Char) :
    IsWord (word ++ cs) ∨ ∃ front b back, word ++ cs = front ++ b :: back ∧ IsWord front ∧
      isBlank b = true := by
  induction cs generalizing word with
  | nil =>
    left
    rwa [List.append_nil]
  | cons c cs ih =>
    cases hc : isBlank c with
    | true => exact .inr ⟨word, c, cs, rfl, h, hc⟩
    | false =>
      have hlonger : IsWord (word ++ [c]) := by
        refine ⟨by simp, fun d hd => ?_⟩
        obtain hd | hd := List.mem_append.mp hd
        · exact h.solid d hd
        · rw [List.mem_singleton.mp hd]
          exact hc
      simpa using ih hlonger

/-- A text is read word by word. -/
theorem word_induction {P : List Char → Prop} (nil : P [])
    (blank : ∀ b cs, isBlank b = true → P cs → P (b :: cs)) (last : ∀ word, IsWord word → P word)
    (next : ∀ word b cs, IsWord word → isBlank b = true → P cs → P (word ++ b :: cs))
    (cs : List Char) : P cs := by
  induction hn : cs.length using Nat.strongRecOn generalizing cs with
  | ind n ih =>
    subst hn
    cases cs with
    | nil => exact nil
    | cons c cs =>
      cases hc : isBlank c with
      | true => exact blank c cs hc (ih _ (by simp) cs rfl)
      | false =>
        have hword : IsWord [c] := ⟨List.cons_ne_nil _ _, by simpa using hc⟩
        obtain hlast | ⟨word, b, back, heq, hword, hb⟩ := hword.extend cs
        · exact last _ hlast
        · rw [List.singleton_append] at heq
          rw [heq] at ih ⊢
          exact next word b back hword hb (ih _ (by simp; omega) back rfl)

/-- Words with a blank between each and the next can be told apart again. -/
lemma words_intercalate {b : Char} (hb : isBlank b = true) {ws : List (List Char)}
    (h : ∀ w ∈ ws, IsWord w) : words ([b].intercalate ws) = ws := by
  induction ws with
  | nil => rfl
  | cons w ws ih =>
    obtain ⟨hw, hws⟩ := List.forall_mem_cons.mp h
    cases ws with
    | nil => rw [List.intercalate_singleton, hw.words_eq]
    | cons v ws =>
      rw [List.intercalate_cons_cons, List.append_assoc, List.singleton_append,
        hw.words_append_cons hb, ih hws]

lemma not_mem_intercalate {b c : Char} (hne : c ≠ b) {ws : List (List Char)}
    (h : ∀ w ∈ ws, c ∉ w) : c ∉ [b].intercalate ws := by
  induction ws with
  | nil => exact List.not_mem_nil
  | cons w ws ih =>
    obtain ⟨hw, hws⟩ := List.forall_mem_cons.mp h
    cases ws with
    | nil => rwa [List.intercalate_singleton]
    | cons v ws =>
      rw [List.intercalate_cons_cons, List.mem_append, List.mem_append, List.mem_singleton]
      rintro ((hmem | rfl) | hmem)
      · exact hw hmem
      · exact hne rfl
      · exact ih hws hmem

lemma words_dropWhile (cs : List Char) : words (cs.dropWhile isBlank) = words cs := by
  induction cs with
  | nil => rfl
  | cons c cs ih =>
    cases hc : isBlank c with
    | true => rw [List.dropWhile_cons_of_pos hc, ih, words_cons hc]
    | false => rw [List.dropWhile_cons_of_neg (by simp [hc])]

lemma words_reverse_dropWhile (cs : List Char) :
    words (cs.dropWhile isBlank).reverse = words cs.reverse := by
  induction cs with
  | nil => rfl
  | cons c cs ih =>
    cases hc : isBlank c with
    | true =>
      rw [List.dropWhile_cons_of_pos hc, ih, List.reverse_cons, words_append_cons hc, words_nil,
        List.append_nil]
    | false => rw [List.dropWhile_cons_of_neg (by simp [hc])]

lemma words_trim (cs : List Char) : words (trim cs) = words cs := by
  rw [trim, words_reverse_dropWhile, List.reverse_reverse, words_dropWhile]

lemma trim_append {front back : List Char} (hfront : ∀ c ∈ front, isBlank c = true)
    (hword : IsWord word) (hback : ∀ c ∈ back, isBlank c = true) :
    trim (front ++ (word ++ back)) = word := by
  have hstop : ∀ {cs : List Char}, IsWord cs → ∀ rest,
      (cs ++ rest).dropWhile isBlank = cs ++ rest := by
    intro cs hcs rest
    obtain ⟨c, cs, rfl⟩ := List.exists_cons_of_ne_nil hcs.ne_nil
    rw [List.cons_append, List.dropWhile_cons_of_neg (by simp [hcs.solid c List.mem_cons_self])]
  have hrev : IsWord word.reverse :=
    ⟨by simpa using hword.ne_nil, fun c hc => hword.solid c (List.mem_reverse.mp hc)⟩
  have hback' : ∀ c ∈ back.reverse, isBlank c = true := fun c hc => hback c (List.mem_reverse.mp hc)
  have h := hstop hrev []
  rw [List.append_nil] at h
  rw [trim, List.dropWhile_append_of_pos hfront, hstop hword, List.reverse_append,
    List.dropWhile_append_of_pos hback', h, List.reverse_reverse]

lemma blank_of_words_eq_nil (h : words cs = []) : ∀ c ∈ cs, isBlank c = true := by
  induction cs using word_induction with
  | nil => nofun
  | blank b cs hb ih =>
    rw [words_cons hb] at h
    exact List.forall_mem_cons.mpr ⟨hb, ih h⟩
  | last w hw =>
    rw [hw.words_eq] at h
    cases h
  | next w b cs hw hb _ =>
    rw [hw.words_append_cons hb] at h
    cases h

/-- A text is blank exactly if nothing is left of it when it is trimmed. -/
theorem trim_eq_nil_iff : trim cs = [] ↔ words cs = [] := by
  constructor
  · intro h
    rw [← words_trim, h, words_nil]
  · intro h
    have hblank : cs.dropWhile isBlank = [] := by
      rw [List.dropWhile_eq_nil_iff]
      exact blank_of_words_eq_nil h
    rw [trim, hblank]
    rfl

lemma exists_of_words_eq_singleton (h : words cs = [word]) :
    ∃ front back, cs = front ++ (word ++ back) ∧ (∀ c ∈ front, isBlank c = true) ∧
      ∀ c ∈ back, isBlank c = true := by
  induction cs using word_induction with
  | nil => cases h
  | blank b cs hb ih =>
    rw [words_cons hb] at h
    obtain ⟨front, back, rfl, hfront, hback⟩ := ih h
    exact ⟨b :: front, back, rfl, List.forall_mem_cons.mpr ⟨hb, hfront⟩, hback⟩
  | last w hw =>
    rw [hw.words_eq] at h
    cases h
    exact ⟨[], [], by simp, nofun, nofun⟩
  | next w b cs hw hb _ =>
    rw [hw.words_append_cons hb, List.cons.injEq] at h
    obtain ⟨rfl, hnil⟩ := h
    exact ⟨[], b :: cs, rfl, nofun, List.forall_mem_cons.mpr ⟨hb, blank_of_words_eq_nil hnil⟩⟩

/-- Trimming shows a word that stands alone. -/
theorem words_eq_singleton_iff (hword : IsWord word) : words cs = [word] ↔ trim cs = word := by
  constructor
  · intro h
    obtain ⟨front, back, rfl, hfront, hback⟩ := exists_of_words_eq_singleton h
    exact trim_append hfront hword hback
  · rintro rfl
    rw [← words_trim, hword.words_eq]

end Dpll.Text
