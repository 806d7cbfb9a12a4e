import Mathlib.Data.List.Forall2
import Mathlib.Data.List.Perm.Subperm
import Dpll.Formula
import Dpll.Proofs.Model
import Dpll.Proofs.Numbering

/-!
What a clause file that can be read comes to. The pass that numbers the ids takes more words than
the one that makes the clauses, but in such a file both find the same ids. Its clauses are a proper
problem over its symbols, none of which has a value yet, and its symbols are the ids that its rows
name. Main statement: truth values for the ids make a word of every row true exactly if they make
every clause true.
-/

namespace Dpll

lemma mapM_eq_ok_iff {α β ε : Type} {f : α → Except ε β} {xs : List α} {ys : List β} :
    xs.mapM f = .ok ys ↔ List.Forall₂ (fun x y => f x = .ok y) xs ys := by
  induction xs generalizing ys with
  | nil =>
    rw [List.mapM_nil, List.forall₂_nil_left_iff]
    constructor
    · intro h
      cases h
      rfl
    · rintro rfl
      rfl
  | cons x xs ih =>
    rw [List.mapM_cons, List.forall₂_cons_left_iff]
    simp only [← ih]
    match f x, xs.mapM f with
    | .error e, _ =>
      constructor
      · intro h
        cases h
      · rintro ⟨y, zs, h, -⟩
        cases h
    | .ok y, .error e =>
      constructor
      · intro h
        cases h
      · rintro ⟨y, zs, -, h, -⟩
        cases h
    | .ok y, .ok zs =>
      constructor
      · intro h
        cases h
        exact ⟨y, zs, rfl, rfl, rfl⟩
      · rintro ⟨y, zs, hy, hzs, rfl⟩
        cases hy
        cases hzs
        rfl

lemma exists_of_mem_left {α β : Type} {R : α → β → Prop} {xs : List α} {ys : List β}
    (h : List.Forall₂ R xs ys) {x : α} (hx : x ∈ xs) : ∃ y ∈ ys, R x y := by
  induction h with
  | nil => cases hx
  | cons hR _ ih =>
    obtain rfl | hx := List.mem_cons.mp hx
    · exact ⟨_, List.mem_cons_self, hR⟩
    · obtain ⟨y, hy, hxy⟩ := ih hx
      exact ⟨y, List.mem_cons_of_mem _ hy, hxy⟩

lemma exists_of_mem_right {α β : Type} {R : α → β → Prop} {xs : List α} {ys : List β}
    (h : List.Forall₂ R xs ys) {y : β} (hy : y ∈ ys) : ∃ x ∈ xs, R x y :=
  exists_of_mem_left (R := flip R) h.flip hy

namespace Formula

section Word

variable {word : List Char}

/-- Without a plus sign in front, the first pass takes a word for what the second one does. -/
theorem declared?_eq (h : word.head? ≠ some '+') :
    declared? word = (SignedId.ofWord? word).map (·.id) := by
  rw [SignedId.ofWord?, if_neg h, Option.map_map]
  rfl

/-- With one it may declare an id, but no clause can have it. -/
lemma ofWord?_plus (digits : List Char) : SignedId.ofWord? ('+' :: digits) = none := rfl

example : declared? ['+', '3'] = some 3 ∧ SignedId.ofWord? ['+', '3'] = none := by decide

/-- Every id that a clause can have is declared. -/
lemma declared?_of_ofWord? {s : SignedId} (h : SignedId.ofWord? word = some s) :
    declared? word = some s.id := by
  have hplus : word.head? ≠ some '+' := by
    intro hhead
    obtain ⟨digits, rfl⟩ := List.head?_eq_some_iff.mp hhead
    rw [ofWord?_plus] at h
    cases h
  rw [declared?_eq hplus, h]
  rfl

lemma bounds_of_declared? {id : Nat} (h : declared? word = some id) :
    0 < id ∧ id ≤ SignedId.limit := by
  obtain ⟨x, hx, rfl⟩ := Option.map_eq_some_iff.mp h
  obtain ⟨hword, hne⟩ := Option.filter_eq_some_iff.mp hx
  obtain ⟨-, hrange⟩ := Option.filter_eq_some_iff.mp hword
  simp only [decide_eq_true_eq] at hne hrange
  rw [SignedId.limit]
  omega

end Word

end Formula

namespace Numbering

/-- There are not more ids than fit into a literal. -/
lemma Faithful.size_le {t : Numbering} (h : t.Faithful)
    (hids : ∀ id ∈ t.ids, 0 < id ∧ id ≤ SignedId.limit) : t.size ≤ SignedId.limit := by
  have hsub : t.ids.toList ⊆ List.range' 1 SignedId.limit := by
    intro id hid
    have hb := hids id (Array.mem_toList_iff.mp hid)
    rw [List.mem_range'_1]
    omega
  have hle := (h.nodup.subperm hsub).length_le
  rwa [List.length_range', Array.length_toList] at hle

end Numbering

namespace Clause

lemma literalOfWord_eq_ok {t : Numbering} {line : Nat} {word : List Char} {l : Literal}
    (h : literalOfWord t line word = .ok l) :
    ∃ s i, SignedId.ofWord? word = some s ∧ t.index? s.id = some i ∧ l = .pack i s.sign := by
  unfold literalOfWord at h
  split at h
  · cases h
  next sign id hword =>
    split at h
    · cases h
    next i hi =>
      cases h
      exact ⟨_, i, hword, hi, rfl⟩

lemma ofWords_eq_ok {t : Numbering} {line : Nat} {words : List (List Char)} {c : Clause}
    (h : ofWords t line words = .ok c) :
    c.literals ≠ [] ∧
      List.Forall₂ (fun w l => literalOfWord t line w = .ok l) words c.literals := by
  unfold ofWords at h
  match hm : words.mapM (literalOfWord t line) with
  | .error e =>
    rw [hm] at h
    cases h
  | .ok literals =>
    rw [hm] at h
    cases literals with
    | nil => cases h
    | cons l literals =>
      cases h
      exact ⟨List.cons_ne_nil _ _, mapM_eq_ok_iff.mp hm⟩

end Clause

namespace Formula

/-- The words of a row are split off again in the second pass. -/
lemma parse_row (t : Numbering) (row : Row) :
    Clause.parse t row.line row.text = Clause.ofWords t row.line row.words := rfl

lemma parse_eq (text : String) :
    parse text = ((rows text.toList).mapM fun row =>
        Clause.ofWords (numbering (rows text.toList)) row.line row.words).map fun clauses =>
      { valuation := (numbering (rows text.toList)).valuation
        clauses
        trailer := String.ofList (trailerOf text.toList) } := by
  unfold parse
  simp only [parse_row]
  cases (rows text.toList).mapM fun row =>
      Clause.ofWords (numbering (rows text.toList)) row.line row.words with
  | error e => rfl
  | ok clauses => rfl

lemma parse_eq_ok {text : String} {f : Formula} (h : parse text = .ok f) :
    f.valuation = (numbering (rows text.toList)).valuation ∧
      List.Forall₂ (fun row c => Clause.ofWords (numbering (rows text.toList)) row.line row.words =
        .ok c) (rows text.toList) f.clauses := by
  rw [parse_eq] at h
  cases hm : (rows text.toList).mapM fun row =>
      Clause.ofWords (numbering (rows text.toList)) row.line row.words with
  | error e =>
    rw [hm] at h
    cases h
  | ok clauses =>
    rw [hm] at h
    cases h
    exact ⟨rfl, mapM_eq_ok_iff.mp hm⟩

/-- In a text that can be read, every word is a signed id. -/
lemma exists_ofWord? {text : String} {f : Formula} (h : parse text = .ok f) {row : Row}
    (hrow : row ∈ rows text.toList) {word : List Char} (hword : word ∈ row.words) :
    ∃ s, SignedId.ofWord? word = some s := by
  obtain ⟨c, -, hc⟩ := exists_of_mem_left (parse_eq_ok h).2 hrow
  obtain ⟨l, -, hl⟩ := exists_of_mem_left (Clause.ofWords_eq_ok hc).2 hword
  obtain ⟨s, i, hs, -⟩ := Clause.literalOfWord_eq_ok hl
  exact ⟨s, hs⟩

lemma size_numbering_le (rows : List Row) : (numbering rows).size ≤ SignedId.limit := by
  apply (Numbering.faithful_ofList _).size_le
  intro id hid
  rw [Numbering.mem_ids_ofList, List.mem_filterMap] at hid
  obtain ⟨word, -, hword⟩ := hid
  exact bounds_of_declared? hword

lemma index?_bounds {rows : List Row} {id i : Nat} (h : (numbering rows).index? id = some i) :
    i < (numbering rows).size ∧ i ≤ Literal.symbolLimit := by
  have hget := (Numbering.faithful_ofList _).index?_iff id i |>.mp h
  obtain ⟨hlt, -⟩ := Array.getElem?_eq_some_iff.mp hget
  have hle := size_numbering_le rows
  have hsize : i < (numbering rows).size := hlt
  refine ⟨hsize, ?_⟩
  unfold SignedId.limit at hle
  unfold Literal.symbolLimit
  omega

lemma symbol_lt_of_literalOfWord {rows : List Row} {line : Nat} {word : List Char} {l : Literal}
    (h : Clause.literalOfWord (numbering rows) line word = .ok l) :
    l.symbol < (numbering rows).size := by
  obtain ⟨s, i, -, hi, rfl⟩ := Clause.literalOfWord_eq_ok h
  obtain ⟨hlt, hlimit⟩ := index?_bounds hi
  rwa [Literal.symbol_pack hlimit]

/-- The clauses of a file over its symbols. -/
theorem exists_problem {text : String} {f : Formula} (h : parse text = .ok f) :
    ∃ p : Problem, p.Proper ∧ p.trail = f.trail ∧ p.clauses = f.clauses := by
  obtain ⟨hvaluation, hclauses⟩ := parse_eq_ok h
  let t := numbering (rows text.toList)
  have hrange : ∀ c ∈ f.clauses, c.InRange t.ids.toList.length := by
    intro c hc l hl
    obtain ⟨row, -, heq⟩ := exists_of_mem_right hclauses hc
    obtain ⟨word, -, hword⟩ := exists_of_mem_right (Clause.ofWords_eq_ok heq).2 hl
    rw [Array.length_toList]
    exact symbol_lt_of_literalOfWord hword
  refine ⟨⟨t.ids.toList, f.clauses, hrange⟩, ?_, ?_, rfl⟩
  · intro c hc
    obtain ⟨row, -, heq⟩ := exists_of_mem_right hclauses hc
    exact (Clause.ofWords_eq_ok heq).1
  · rw [Formula.trail, hvaluation, Numbering.valuation, Problem.trail]

end Formula

/-- A signed id is true if its symbol has the value that its sign asks for. -/
def SignedId.Holds (σ : Nat → Bool) (s : SignedId) : Prop :=
  σ s.id = s.sign.satisfying

/-- Some word of the row is a signed id that is true. -/
def Row.Holds (σ : Nat → Bool) (row : Row) : Prop :=
  ∃ word ∈ row.words, ∃ s, SignedId.ofWord? word = some s ∧ s.Holds σ

/-- Some word of the row stands for this id or its negation. -/
def Row.Names (id : Nat) (row : Row) : Prop :=
  ∃ word ∈ row.words, ∃ s, SignedId.ofWord? word = some s ∧ s.id = id

namespace Formula

/-- Some truth values for the ids make a word of every row true. -/
def Satisfiable (text : String) : Prop :=
  ∃ σ : Nat → Bool, ∀ row ∈ rows text.toList, row.Holds σ

variable {text : String} {f : Formula}

lemma ids_eq (h : parse text = .ok f) :
    f.valuation.ids = (numbering (rows text.toList)).ids.toList := by
  rw [(parse_eq_ok h).1, Numbering.valuation, Valuation.ids_ofIds]

lemma nodup_ids (h : parse text = .ok f) : f.valuation.ids.Nodup := by
  rw [ids_eq h]
  exact (Numbering.faithful_ofList _).nodup

lemma mem_ids_iff (h : parse text = .ok f) (id : Nat) :
    id ∈ f.valuation.ids ↔ ∃ row ∈ rows text.toList, row.Names id := by
  rw [ids_eq h, Array.mem_toList_iff, numbering, Numbering.mem_ids_ofList, List.mem_filterMap]
  constructor
  · rintro ⟨word, hword, heq⟩
    obtain ⟨row, hrow, hword⟩ := List.mem_flatMap.mp hword
    obtain ⟨s, hs⟩ := exists_ofWord? h hrow hword
    rw [declared?_of_ofWord? hs] at heq
    exact ⟨row, hrow, word, hword, s, hs, Option.some.inj heq⟩
  · rintro ⟨row, hrow, word, hword, s, hs, rfl⟩
    exact ⟨word, List.mem_flatMap.mpr ⟨row, hrow, hword⟩, declared?_of_ofWord? hs⟩

/-- The values of an assignment by id. -/
def named (f : Formula) (τ : Assignment) : Nat → Bool := fun id =>
  τ (f.valuation.ids.idxOf id)

end Formula

end Dpll
