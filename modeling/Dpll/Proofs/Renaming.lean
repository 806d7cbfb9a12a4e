import Mathlib
import Dpll.Proofs.Rendering
import Dpll.Proofs.Search.Renaming
import Dpll.Proofs.Search.Resumption
import Dpll.Proofs.Solution

/-!
Texts with other ids. A file is read by the order in which its ids appear, so if each id is replaced
by another, and different ones by different ones, the clauses by index are the same. Main statement:
such a text is read as the same clauses over renamed symbols, and every run of a search over it is
the run over the first text under the new names; each symbol has the same value in both solutions.
-/

namespace Dpll

section List

variable {r : Nat → Nat} {ids : List Nat}

lemma idxOf_map (hinj : Set.InjOn r {id | id ∈ ids}) {id : Nat} (hid : id ∈ ids) :
    (ids.map r).idxOf (r id) = ids.idxOf id := by
  induction ids with
  | nil => cases hid
  | cons k ids ih =>
    rw [List.map_cons]
    by_cases hk : k = id
    · subst hk
      rw [List.idxOf_cons_self, List.idxOf_cons_self]
    · have hne : r k ≠ r id := fun heq => hk (hinj List.mem_cons_self hid heq)
      have hrest := ih (hinj.mono fun _ => List.mem_cons_of_mem k)
        ((List.mem_cons.mp hid).resolve_left (Ne.symm hk))
      rw [List.idxOf_cons_ne _ hne, List.idxOf_cons_ne _ hk, hrest]

/-- Replacing ids does not change where each appears first. -/
lemma eraseDups_map (hinj : Set.InjOn r {id | id ∈ ids}) :
    (ids.map r).eraseDups = ids.eraseDups.map r := by
  -- Without the later copies of its first member the list is shorter.
  induction hn : ids.length using Nat.strongRecOn generalizing ids with
  | ind n ih =>
    cases ids with
    | nil => rfl
    | cons k ids =>
      have hfilter : (ids.map r).filter (fun id => !id == r k) =
          (ids.filter fun id => !id == k).map r := by
        rw [List.filter_map]
        congr 1
        apply List.filter_congr
        intro id hid
        have hiff : r id = r k ↔ id = k :=
          hinj.eq_iff (List.mem_cons_of_mem k hid) List.mem_cons_self
        simp [hiff, Bool.beq_eq_decide_eq]
      have hlt : (ids.filter fun id => !id == k).length < n := by
        have hle := List.length_filter_le (fun id => !id == k) ids
        rw [List.length_cons] at hn
        omega
      have hrest := ih _ hlt (hinj.mono fun id hid =>
        List.mem_cons_of_mem k (List.mem_of_mem_filter hid)) rfl
      rw [List.map_cons, List.eraseDups_cons, List.eraseDups_cons, hfilter, hrest, List.map_cons]

end List

/-- The number with the same sign whose magnitude is the new id. -/
def renumber (r : Nat → Nat) (x : Int) : Int :=
  x.sign * r x.natAbs

section Number

variable {r : Nat → Nat} {x : Int}

lemma natAbs_renumber (hx : x ≠ 0) : (renumber r x).natAbs = r x.natAbs := by
  rw [renumber, Int.natAbs_mul, Int.natAbs_sign_of_ne_zero hx, Nat.one_mul, Int.natAbs_natCast]

lemma renumber_pos_iff (hx : x ≠ 0) (hr : 0 < r x.natAbs) : 0 < renumber r x ↔ 0 < x := by
  rw [renumber]
  obtain hneg | hpos := lt_or_gt_of_ne hx
  · rw [Int.sign_eq_neg_one_of_neg hneg]
    omega
  · rw [Int.sign_eq_one_of_pos hpos]
    omega

lemma Numeral.eq {word : List Char} {y : Int} (hx : Numeral word x) (hy : Numeral word y) :
    x = y := by
  cases hx with
  | plain _ hdigits =>
    cases hy with
    | plain => rfl
    | minus =>
      have hdigit := hdigits '-' List.mem_cons_self
      cases hdigit
  | minus _ _ =>
    cases hy with
    | plain _ hdigits =>
      have hdigit := hdigits '-' List.mem_cons_self
      cases hdigit
    | minus => rfl

lemma Token.renumber {word word' : List Char} (h : Token word x)
    (hword : Numeral word' (renumber r x)) (hr : 1 ≤ r x.natAbs ∧ r x.natAbs ≤ 2 ^ 63 - 1) :
    Token word' (renumber r x) := by
  have habs := natAbs_renumber (r := r) h.ne_zero
  exact ⟨hword, by omega, by omega, by omega⟩

end Number

namespace Formula

/-- The clause lines of the two texts have as many words each, and each word spells the renamed
number of the one in its place. -/
def Renames (r : Nat → Nat) (text text' : String) : Prop :=
  List.Forall₂ (List.Forall₂ fun word word' => ∃ x, Numeral word x ∧ Numeral word' (renumber r x))
    (wordRows text) (wordRows text')

section Renames

variable {r : Nat → Nat} {text text' : String} {f : Formula} {numbers : List (List Int)}

/-- The numbers can be renamed, and different magnitudes remain different. -/
structure Renamable (r : Nat → Nat) (numbers : List (List Int)) : Prop where
  ne_zero : ∀ xs ∈ numbers, ∀ x ∈ xs, x ≠ 0
  range : ∀ xs ∈ numbers, ∀ x ∈ xs, 1 ≤ r x.natAbs ∧ r x.natAbs ≤ 2 ^ 63 - 1
  injOn : Set.InjOn r {id | id ∈ magnitudes numbers}

lemma forall₂_token_renumber {words words' : List (List Char)} {xs : List Int}
    (h : List.Forall₂ Token words xs)
    (hr : List.Forall₂ (fun word word' => ∃ x, Numeral word x ∧ Numeral word' (renumber r x))
      words words')
    (hrange : ∀ x ∈ xs, 1 ≤ r x.natAbs ∧ r x.natAbs ≤ 2 ^ 63 - 1) :
    List.Forall₂ Token words' (xs.map (renumber r)) := by
  induction h generalizing words' with
  | nil =>
    cases hr
    exact .nil
  | cons hx _ ih =>
    cases hr with
    | cons hword hwords =>
      obtain ⟨hhead, htail⟩ := List.forall_mem_cons.mp hrange
      obtain ⟨y, hy, hword'⟩ := hword
      cases hx.numeral.eq hy
      exact .cons (hx.renumber hword' hhead) (ih hwords htail)

lemma forall₂_tokens_renumber {rows rows' : List (List (List Char))}
    (h : List.Forall₂ (List.Forall₂ Token) rows numbers)
    (hr : List.Forall₂ (List.Forall₂ fun word word' =>
      ∃ x, Numeral word x ∧ Numeral word' (renumber r x)) rows rows')
    (hrange : ∀ xs ∈ numbers, ∀ x ∈ xs, 1 ≤ r x.natAbs ∧ r x.natAbs ≤ 2 ^ 63 - 1) :
    List.Forall₂ (List.Forall₂ Token) rows' (numbers.map (·.map (renumber r))) := by
  induction h generalizing rows' with
  | nil =>
    cases hr
    exact .nil
  | cons hxs _ ih =>
    cases hr with
    | cons hwords hrows =>
      obtain ⟨hhead, htail⟩ := List.forall_mem_cons.mp hrange
      exact .cons (forall₂_token_renumber hxs hwords hhead) (ih hrows htail)

lemma Renamable.magnitudes_eq (h : Renamable r numbers) :
    magnitudes (numbers.map (·.map (renumber r))) = (magnitudes numbers).map r := by
  have habs : (numbers.map (·.map (renumber r))).flatten.map Int.natAbs =
      (numbers.flatten.map Int.natAbs).map r := by
    rw [← List.map_flatten, List.map_map, List.map_map]
    apply List.map_congr_left
    intro x hx
    obtain ⟨xs, hxs, hx⟩ := List.mem_flatten.mp hx
    exact natAbs_renumber (h.ne_zero xs hxs x hx)
  rw [magnitudes, habs]
  apply eraseDups_map
  intro id hid k hk
  exact h.injOn (List.mem_eraseDups.mpr hid) (List.mem_eraseDups.mpr hk)

lemma Renamable.literalOf_eq (h : Renamable r numbers) {xs : List Int} (hxs : xs ∈ numbers)
    {x : Int} (hx : x ∈ xs) :
    literalOf ((magnitudes numbers).map r) (renumber r x) = literalOf (magnitudes numbers) x := by
  have hne := h.ne_zero xs hxs x hx
  have hpos := renumber_pos_iff hne (h.range xs hxs x hx).1
  rw [literalOf, natAbs_renumber hne, idxOf_map h.injOn (mem_magnitudes hxs hx),
    decide_eq_decide.mpr hpos, literalOf]

lemma Renamable.transcribe_eq (h : Renamable r numbers) (trailer : String) :
    transcribe (numbers.map (·.map (renumber r))) trailer =
      { transcribe numbers trailer with
        valuation := (transcribe numbers trailer).valuation.rename r } := by
  rw [transcribe, transcribe, h.magnitudes_eq, Formula.mk.injEq, Valuation.rename_ofIds]
  refine ⟨rfl, ?_, rfl⟩
  rw [List.map_map]
  apply List.map_congr_left
  intro xs hxs
  simp only [Function.comp_apply, List.map_map, Clause.mk.injEq, and_true]
  apply List.map_congr_left
  intro x hx
  exact h.literalOf_eq hxs hx

/-- A text with other ids is read as the same clauses over renamed symbols. -/
lemma exists_parse_of_renames (h : parse text = .ok f) (hr : Renames r text text')
    (hinj : Set.InjOn r {id | id ∈ f.valuation.ids})
    (hrange : ∀ id ∈ f.valuation.ids, 1 ≤ r id ∧ r id ≤ 2 ^ 63 - 1) :
    ∃ f', parse text' = .ok f' ∧ f'.clauses = f.clauses ∧
      f'.valuation = f.valuation.rename r := by
  obtain ⟨numbers, hnumbers, rfl⟩ := parse_eq_ok_iff.mp h
  have hids : (transcribe numbers (String.ofList (trailerOf text.toList))).valuation.ids =
      magnitudes numbers := Valuation.ids_ofIds _
  rw [hids] at hinj hrange
  have hrenamable : Renamable r numbers := by
    refine ⟨?_, fun xs hxs x hx => hrange _ (mem_magnitudes hxs hx), hinj⟩
    intro xs hxs x hx
    obtain ⟨word, hword⟩ := (legible hnumbers xs hxs).2 x hx
    exact hword.ne_zero
  have htokens := forall₂_tokens_renumber hnumbers hr hrenamable.range
  refine ⟨_, parse_eq_transcribe htokens, ?_, ?_⟩
  · rw [hrenamable.transcribe_eq]
    rfl
  · rw [hrenamable.transcribe_eq]
    rfl

end Renames

end Formula

namespace Search

variable {p : Problem} {s : Search} {r : Nat → Nat}

/-- A run over renamed symbols comes to the same verdict, with the same value for each symbol. -/
lemma answer_renamed (hp : p.Proper) (hs : s.Ready p) (hids : p.ids.Nodup)
    (hinj : Set.InjOn r {id | id ∈ p.ids}) {schedule : Schedule} {a : Solution}
    (ha : answer? (s.solve schedule) = some a) :
    ∃ a', answer? (renamedRun r (s.solve schedule)) = some a' ∧ a'.isSat = a.isSat ∧
      ∀ id ∈ p.ids, a'.value (r id) = a.value id := by
  have hended := ended_solve hp hs schedule
  generalize s.solve schedule = result at hended ha
  cases hended with
  | interrupted | notEmpty => cases ha
  | unsat =>
    cases ha
    exact ⟨.unsat, rfl, rfl, fun _ _ => rfl⟩
  | @solved s' hs' =>
    cases ha
    refine ⟨_, rfl, rfl, ?_⟩
    intro id hid
    -- The symbol keeps its index, and no other one has its new id.
    have heq := hs'.consistent.ids_eq
    obtain ⟨i, hi⟩ := List.mem_iff_getElem?.mp (heq ▸ hid)
    have hrenamed : (s'.trail.valuation.rename r).ids[i]? = some (r id) := by
      rw [Valuation.ids_rename, List.getElem?_map, hi, Option.map_some]
    have hnodup : (s'.trail.valuation.rename r).ids.Nodup := by
      rw [Valuation.ids_rename, heq]
      exact hids.map_on fun x hx y hy hxy => hinj hx hy hxy
    rw [Solution.value_ofValuation (heq ▸ hids) hi]
    exact (Solution.value_ofValuation hnodup hrenamed).trans (Valuation.valueAt_rename r _ i)

end Search

namespace Formula

variable {r : Nat → Nat} {text text' : String} {f : Formula}

lemma zero_not_mem_ids (h : parse text = .ok f) : 0 ∉ f.valuation.ids := by
  rw [mem_ids_iff h]
  rintro ⟨row, -, word, -, s, hs, hid⟩
  obtain ⟨x, hx, rfl⟩ := ofWord?_eq_some_iff.mp hs
  exact hx.ne_zero (Int.natAbs_eq_zero.mp hid)

/-- A text in which each id is replaced by another, with the same sign, is read as the same clauses,
and a search over them makes the same run under the new names. Each symbol has the same value in
both solutions. -/
theorem parse_renamed (h : parse text = .ok f) (hr : Renames r text text')
    (hinj : Set.InjOn r {id | id ∈ f.valuation.ids})
    (hrange : ∀ id ∈ f.valuation.ids, 1 ≤ r id ∧ r id ≤ 2 ^ 63 - 1) :
    ∃ f', parse text' = .ok f' ∧ f'.clauses = f.clauses ∧ f'.valuation = f.valuation.rename r ∧
      ∀ schedule, (Search.new f'.trail).solve schedule =
          Search.renamedRun r ((Search.new f.trail).solve schedule) ∧
        ∀ a, Search.answer? ((Search.new f.trail).solve schedule) = some a →
          ∃ a', Search.answer? ((Search.new f'.trail).solve schedule) = some a' ∧
            a'.isSat = a.isSat ∧ ∀ id ∈ f.valuation.ids, a'.value (r id) = a.value id := by
  obtain ⟨f', hf', hclauses, hvaluation⟩ := exists_parse_of_renames h hr hinj hrange
  obtain ⟨p, hp, htrail, -⟩ := exists_problem h
  have hready : (Search.new f.trail).Ready p := by
    rw [← htrail]
    exact Search.ready_new (.new p) rfl
  have hids : p.ids = f.valuation.ids := by
    have heq := congrArg (·.valuation.ids) htrail
    simpa [Problem.trail, Trail.new, trail] using heq
  have hzero : 0 ∉ p.ids := hids ▸ zero_not_mem_ids h
  have hnew : Search.new f'.trail = (Search.new f.trail).rename r := by
    simp [Search.new, Search.rename, trail, Trail.new, Trail.rename, hclauses, hvaluation]
  refine ⟨f', hf', hclauses, hvaluation, fun schedule => ?_⟩
  have hsolve := Search.solve_rename hp hready hzero r schedule
  rw [← hnew] at hsolve
  refine ⟨hsolve, fun a ha => ?_⟩
  rw [hsolve, ← hids]
  exact Search.answer_renamed hp hready (hids ▸ nodup_ids h) (hids ▸ hinj) ha

/-- The new ids come in the opposite order, so the two solutions list their values differently. -/
theorem parse_renamed_sample :
    ∃ f f', parse "3 -1\n\n1 2\n0\n" = .ok f ∧ parse "5 -07\n7 6\n0\n" = .ok f' ∧
      f'.clauses = f.clauses ∧
      Search.answer? ((Search.new f.trail).solve .unlimited) =
        some (.sat [(1, some true), (2, none), (3, some true)]) ∧
      ∃ a', Search.answer? ((Search.new f'.trail).solve .unlimited) = some a' ∧
        a'.isSat = true ∧ a'.value 7 = some true ∧ a'.value 6 = none := by
  have hparse : parse "3 -1\n\n1 2\n0\n" = .ok ⟨.ofIds [3, 1, 2],
      [{ literals := [.pack 0 .positive, .pack 1 .negative] },
        { literals := [.pack 1 .positive, .pack 2 .positive] }], ""⟩ := by
    cbv
  have hrows : wordRows "3 -1\n\n1 2\n0\n" = [[['3'], ['-', '1']], [['1'], ['2']]] := by
    cbv
  have hrows' : wordRows "5 -07\n7 6\n0\n" = [[['5'], ['-', '0', '7']], [['7'], ['6']]] := by
    cbv
  have hnumeral : Numeral ['-', '0', '7'] (-7) := .minus (List.cons_ne_nil '0' ['7']) (by simp)
  have hrenames : Renames (8 - ·) "3 -1\n\n1 2\n0\n" "5 -07\n7 6\n0\n" := by
    rw [Renames, hrows, hrows']
    refine .cons (.cons ⟨3, ?_, ?_⟩ (.cons ⟨-1, ?_, ?_⟩ .nil))
      (.cons (.cons ⟨1, ?_, ?_⟩ (.cons ⟨2, ?_, ?_⟩ .nil)) .nil)
    · exact numeral_spelling 3
    · exact numeral_spelling 5
    · exact numeral_spelling (-1)
    · exact hnumeral
    · exact numeral_spelling 1
    · exact numeral_spelling 7
    · exact numeral_spelling 2
    · exact numeral_spelling 6
  have hinj : Set.InjOn (8 - ·) {id | id ∈ (Valuation.ofIds [3, 1, 2]).ids} := by
    rw [Valuation.ids_ofIds]
    intro x hx y hy hxy
    simp at hx hy hxy
    omega
  obtain ⟨f', hf', hclauses, -, hsame⟩ := parse_renamed hparse hrenames hinj (by decide)
  have hanswer : Search.answer? ((Search.new (Trail.new (.ofIds [3, 1, 2])
      [{ literals := [.pack 0 .positive, .pack 1 .negative] },
        { literals := [.pack 1 .positive, .pack 2 .positive] }])).solve .unlimited) =
      some (.sat [(1, some true), (2, none), (3, some true)]) := by
    rw [Search.solve_eq, Search.runFrom_eq]
    cbv
  obtain ⟨a', ha', hsat, hvalue⟩ := (hsame .unlimited).2 _ hanswer
  refine ⟨_, f', hparse, hf', hclauses, hanswer, a', ha', hsat, ?_, ?_⟩
  · exact hvalue 1 (by decide)
  · exact hvalue 2 (by decide)

end Formula

end Dpll
