import Std.Data.HashSet.Lemmas
import Dpll.Search.Basic
import Dpll.Proofs.Decision
import Dpll.Proofs.Literal

/-!
A decision made over tables that are kept from node to node. The scan of the open clauses notes
with which sign a symbol occurs first and which symbols occur with both signs; it clears the
tables before, so that it does not matter what an earlier scan has left in them. Main statement:
the scan goes through, and the decision read off the tables is the one of the census.
-/

namespace Dpll

/-- What a scan keeps about the symbols. -/
structure Tables where
  /-- By symbol, the sign of its first occurrence. -/
  polarity : Array (Option Sign)
  /-- The symbols that have occurred with both signs. -/
  impure : Std.HashSet Nat

namespace Tables

def clear (tables : Tables) : Tables where
  polarity := tables.polarity.map fun _ => none
  impure := ∅

def note (l : Literal) : EStateM Fault Tables Unit := fun tables =>
  if l.symbol ∈ tables.impure then .ok () tables
  else match tables.polarity[l.symbol]? with
    | none => .error (.outOfRange l.symbol) tables
    | some none =>
      .ok () { tables with polarity := tables.polarity.setIfInBounds l.symbol (some l.sign) }
    | some (some sign) =>
      if sign = l.sign then .ok () tables
      else .ok () { tables with impure := tables.impure.insert l.symbol }

/-- Notes the occurrences in these clauses and finds the literal of the first clause that has only
one left, unless there is one from before. -/
def scan (unit : Option Literal) : List Clause → EStateM Fault Tables (Option Literal)
  | [] => pure unit
  | c :: clauses => do
    c.cache.unassigned.forM note
    scan (unit <|> c.soleLiteral?) clauses

/-- The literal of the first symbol of the pool that has occurred with one sign only. -/
def firstPure (tables : Tables) : List Nat → Except Fault (Option Literal)
  | [] => .ok none
  | i :: pool =>
    match tables.polarity[i]? with
    | none => .error (.outOfRange i)
    | some none => tables.firstPure pool
    | some (some sign) =>
      if i ∈ tables.impure then tables.firstPure pool else .ok (some (.pack i sign))

/-- What the tables say of a symbol. -/
def occurrence (tables : Tables) (i : Nat) : Occurrence :=
  if i ∈ tables.impure then .bothSigns
  else match tables.polarity[i]? with
    | some (some sign) => .oneSign (.pack i sign)
    | _ => .absent

end Tables

/-- The choice between the literals that a scan has found. -/
def Decision.ofFound : Option Literal → Option Literal → Decision
  | some l, _ => .force l .pureLiteral
  | none, some l => .force l .unitClause
  | none, none => .branch

/-- A search with the tables of its scans. -/
structure Solver where
  search : Search
  tables : Tables

def Solver.decide : EStateM Fault Solver Decision := fun s =>
  match s.search.trail.openClauses with
  | .error fault => .error fault { s with tables := s.tables.clear }
  | .ok clauses =>
    match Tables.scan none clauses s.tables.clear with
    | .error fault tables => .error fault { s with tables }
    | .ok unit tables =>
      match tables.firstPure s.search.pool with
      | .error fault => .error fault { s with tables }
      | .ok literal => .ok (.ofFound literal unit) { s with tables }

namespace Tables

lemma bind_of_ok {α β : Type} {x : EStateM Fault Tables α} {f : α → EStateM Fault Tables β}
    {tables tables' : Tables} {a : α} (h : x tables = .ok a tables') :
    (x >>= f) tables = f a tables' := by
  change EStateM.bind x f tables = _
  rw [EStateM.bind, h]

variable {tables : Tables}

@[simp] lemma size_clear (tables : Tables) :
    tables.clear.polarity.size = tables.polarity.size := by
  simp [clear]

@[simp] lemma occurrence_clear (tables : Tables) (i : Nat) :
    tables.clear.occurrence i = .absent := by
  simp only [occurrence, clear, Std.HashSet.not_mem_empty, if_false, Array.getElem?_map]
  cases tables.polarity[i]? <;> rfl

lemma occurrence_eq_bothSigns {i : Nat} (h : i ∈ tables.impure) :
    tables.occurrence i = .bothSigns :=
  if_pos h

lemma occurrence_eq_absent {i : Nat} (h : i ∉ tables.impure)
    (hs : tables.polarity[i]? = some none) : tables.occurrence i = .absent := by
  rw [occurrence, if_neg h, hs]

lemma occurrence_eq_oneSign {i : Nat} {sign : Sign} (h : i ∉ tables.impure)
    (hs : tables.polarity[i]? = some (some sign)) :
    tables.occurrence i = .oneSign (.pack i sign) := by
  rw [occurrence, if_neg h, hs]

lemma occurrence_setIfInBounds {i j : Nat} (h : i ≠ j) (sign : Option Sign) :
    ({ tables with polarity := tables.polarity.setIfInBounds i sign }).occurrence j =
      tables.occurrence j := by
  simp only [occurrence, Array.getElem?_setIfInBounds_ne h]

lemma occurrence_insert {i j : Nat} (h : i ≠ j) :
    ({ tables with impure := tables.impure.insert i }).occurrence j = tables.occurrence j := by
  simp [occurrence, h]

/-- To note an occurrence is to add it to what is known of its symbol. -/
lemma note_eq {l : Literal} (h : l.symbol < tables.polarity.size) :
    ∃ tables', note l tables = .ok () tables' ∧
      tables'.polarity.size = tables.polarity.size ∧
      tables'.occurrence l.symbol = (tables.occurrence l.symbol).add l ∧
      ∀ i, l.symbol ≠ i → tables'.occurrence i = tables.occurrence i := by
  unfold note
  by_cases hmem : l.symbol ∈ tables.impure
  · refine ⟨tables, if_pos hmem, rfl, ?_, fun _ _ => rfl⟩
    rw [occurrence_eq_bothSigns hmem]
    rfl
  · rw [if_neg hmem]
    cases hs : tables.polarity[l.symbol]? with
    | none => exact absurd h (by simpa using hs)
    | some found =>
      cases found with
      | none =>
        refine ⟨_, rfl, by simp, ?_, fun _ hi => occurrence_setIfInBounds hi _⟩
        have hset : (tables.polarity.setIfInBounds l.symbol (some l.sign))[l.symbol]? =
            some (some l.sign) := by simp [h]
        rw [occurrence_eq_absent hmem hs, Occurrence.add]
        rw [occurrence, if_neg hmem, hset]
        exact congrArg Occurrence.oneSign l.pack_symbol_sign
      | some sign =>
        rw [occurrence_eq_oneSign hmem hs, Occurrence.add]
        by_cases hl : sign = l.sign
        · refine ⟨tables, if_pos hl, rfl, ?_, fun _ _ => rfl⟩
          rw [if_pos (Literal.pack_eq_iff.mpr hl), occurrence_eq_oneSign hmem hs]
        · refine ⟨_, if_neg hl, rfl, ?_, fun _ hi => occurrence_insert hi⟩
          rw [if_neg (mt Literal.pack_eq_iff.mp hl), occurrence_eq_bothSigns (by simp)]

/-- What noting these occurrences makes of what is known of a symbol. -/
lemma forM_note_eq (ls : List Literal) (h : ∀ l ∈ ls, l.symbol < tables.polarity.size) :
    ∃ tables', ls.forM note tables = .ok () tables' ∧
      tables'.polarity.size = tables.polarity.size ∧
      ∀ i, tables'.occurrence i =
        (ls.filter (·.symbol = i)).foldl (fun o l => o.add l) (tables.occurrence i) := by
  induction ls generalizing tables with
  | nil => exact ⟨tables, rfl, rfl, fun _ => rfl⟩
  | cons l ls ih =>
    obtain ⟨hl, hls⟩ := List.forall_mem_cons.mp h
    obtain ⟨noted, hnote, hsize, hsame, hother⟩ := note_eq hl
    obtain ⟨tables', hrest, hsize', hocc⟩ := ih (hsize ▸ hls)
    refine ⟨tables', ?_, hsize'.trans hsize, ?_⟩
    · change (note l >>= fun _ => ls.forM note) tables = _
      rw [bind_of_ok hnote, hrest]
    · intro i
      rw [hocc]
      by_cases hi : l.symbol = i
      · subst hi
        rw [List.filter_cons_of_pos (by simp), List.foldl_cons, hsame]
      · rw [List.filter_cons_of_neg (by simpa using hi), hother i hi]

lemma scan_eq (clauses : List Clause) (unit : Option Literal)
    (h : ∀ l ∈ Census.openLiterals clauses, l.symbol < tables.polarity.size) :
    ∃ tables', scan unit clauses tables =
        .ok (unit <|> clauses.findSome? (·.soleLiteral?)) tables' ∧
      tables'.polarity.size = tables.polarity.size ∧
      ∀ i, tables'.occurrence i = ((Census.openLiterals clauses).filter (·.symbol = i)).foldl
        (fun o l => o.add l) (tables.occurrence i) := by
  induction clauses generalizing unit tables with
  | nil =>
    refine ⟨tables, ?_, rfl, fun _ => rfl⟩
    cases unit <;> rfl
  | cons c clauses ih =>
    rw [Census.openLiterals, List.flatMap_cons, List.forall_mem_append] at h
    obtain ⟨noted, hnote, hsize, hocc⟩ := forM_note_eq _ h.1
    obtain ⟨tables', hrest, hsize', hocc'⟩ := ih (unit <|> c.soleLiteral?) (hsize ▸ h.2)
    refine ⟨tables', ?_, hsize'.trans hsize, ?_⟩
    · rw [scan, bind_of_ok hnote, hrest, List.findSome?_cons]
      cases unit <;> cases c.soleLiteral? <;> rfl
    · intro i
      rw [hocc', hocc, ← List.foldl_append, ← List.filter_append]
      rfl

lemma firstPure_eq {census : Census} {pool : List Nat}
    (hpool : ∀ i ∈ pool, i < tables.polarity.size)
    (hocc : ∀ i ∈ pool, census.occurrences[i]? = some (tables.occurrence i)) :
    tables.firstPure pool = .ok (pool.findSome? census.pureLiteral?) := by
  induction pool with
  | nil => rfl
  | cons i pool ih =>
    obtain ⟨hi, hpool⟩ := List.forall_mem_cons.mp hpool
    obtain ⟨hocci, hocc⟩ := List.forall_mem_cons.mp hocc
    rw [firstPure, List.findSome?_cons, ih hpool hocc, Census.pureLiteral?, hocci]
    cases hs : tables.polarity[i]? with
    | none => exact absurd hi (by simpa using hs)
    | some found =>
      by_cases hmem : i ∈ tables.impure
      · rw [occurrence_eq_bothSigns hmem]
        cases found with
        | none => rfl
        | some sign => exact if_pos hmem
      · cases found with
        | none => rw [occurrence_eq_absent hmem hs]
        | some sign =>
          rw [occurrence_eq_oneSign hmem hs]
          exact if_neg hmem

end Tables

lemma Census.getElem?_occurrences {n i : Nat} (hi : i < n) (clauses : List Clause) :
    (ofClauses n clauses).occurrences[i]? = some
      (((openLiterals clauses).filter (·.symbol = i)).foldl (fun o l => o.add l) .absent) := by
  rw [ofClauses, foldl_addClause, getElem?_foldl_addLiteral, Array.getElem?_replicate, if_pos hi]
  rfl

lemma Decision.choose_eq (n : Nat) (pool : List Nat) (clauses : List Clause) :
    choose n pool clauses = ofFound (pool.findSome? (Census.ofClauses n clauses).pureLiteral?)
      (clauses.findSome? (·.soleLiteral?)) := by
  rw [← Census.unit_ofClauses n, choose]
  cases pool.findSome? (Census.ofClauses n clauses).pureLiteral? <;>
    cases (Census.ofClauses n clauses).unit <;> rfl

/-- A scan goes through and changes nothing but the tables. The decision is the one of the census,
whatever the tables held before. -/
theorem Solver.decide_eq {s : Search} {tables : Tables} {clauses : List Clause}
    (hopen : s.trail.openClauses = .ok clauses)
    (htables : tables.polarity.size = s.trail.valuation.size)
    (hclauses : ∀ l ∈ Census.openLiterals clauses, l.symbol < s.trail.valuation.size)
    (hpool : ∀ i ∈ s.pool, i < s.trail.valuation.size) :
    ∃ tables', Solver.decide ⟨s, tables⟩ =
      .ok (Decision.choose s.trail.valuation.size s.pool clauses) ⟨s, tables'⟩ := by
  have hclear : tables.clear.polarity.size = s.trail.valuation.size := by
    rw [Tables.size_clear, htables]
  obtain ⟨tables', hscan, hsize, hocc⟩ :=
    Tables.scan_eq clauses none (hclear ▸ hclauses)
  rw [hclear] at hsize
  have hcensus : ∀ i ∈ s.pool,
      (Census.ofClauses s.trail.valuation.size clauses).occurrences[i]? =
        some (tables'.occurrence i) := by
    intro i hi
    rw [Census.getElem?_occurrences (hpool i hi), hocc, Tables.occurrence_clear]
  refine ⟨tables', ?_⟩
  simp only [Solver.decide, hopen, hscan, Tables.firstPure_eq (hsize ▸ hpool) hcensus,
    Decision.choose_eq]
  rfl

end Dpll
