import Mathlib.Algebra.Group.Nat.Defs
import Mathlib.Tactic.Lemma
import Dpll.Valuation

/-!
Literals as pairs. Main statement: below the limit a symbol and a sign are packed without loss, so
that the word gives both back and is the word of no other pair; negation turns the sign alone, and
with it the value under any valuation, and words are in the order of their pairs.
-/

namespace Dpll

namespace Sign

/-- The negative sign comes first. -/
def Precedes (x y : Sign) : Prop :=
  x = negative ∧ y = positive

@[simp] lemma satisfying_ofBool (b : Bool) : (ofBool b).satisfying = b := by
  cases b <;> rfl

lemma satisfying_flip (sign : Sign) : sign.flip.satisfying = !sign.satisfying := by
  cases sign <;> rfl

lemma flip_ne (sign : Sign) : sign.flip ≠ sign := by
  cases sign <;> decide

lemma precedes_iff {x y : Sign} : x.Precedes y ↔ x.satisfying.toNat < y.satisfying.toNat := by
  cases x <;> cases y <;> simp [Precedes, satisfying]

end Sign

namespace Literal

/-- By symbol, and of one symbol by sign. -/
def Precedes : Nat × Sign → Nat × Sign → Prop :=
  Prod.Lex (· < ·) Sign.Precedes

/-- The word stands for this symbol and this sign. -/
structure Encodes (l : Literal) (s : Nat) (sign : Sign) : Prop where
  toNat_code_eq : l.code.toNat = 2 * s + sign.satisfying.toNat
  symbol_eq : l.symbol = s
  sign_eq : l.sign = sign
  isNegated_iff : l.isNegated ↔ sign = .negative

/-- No bit of a word is left over beside the symbol and the sign. -/
lemma toNat_code (l : Literal) : l.code.toNat = 2 * l.symbol + l.sign.satisfying.toNat := by
  rw [symbol_eq, sign_eq, Sign.satisfying_ofBool]
  obtain h | h := Nat.mod_two_eq_zero_or_one l.code.toNat
  · rw [h]
    change l.code.toNat = 2 * (l.code.toNat / 2) + 0
    omega
  · rw [h]
    change l.code.toNat = 2 * (l.code.toNat / 2) + 1
    omega

lemma symbol_le_symbolLimit (l : Literal) : l.symbol ≤ symbolLimit := by
  have hlt := l.code.toNat_lt
  rw [symbol_eq, symbolLimit]
  omega

lemma pack_symbol_sign (l : Literal) : pack l.symbol l.sign = l := by
  have hcode : (pack l.symbol l.sign).code.toNat = l.code.toNat := by
    rw [toNat_code_pack l.symbol_le_symbolLimit, ← toNat_code]
  exact congrArg Literal.mk (UInt64.toNat_inj.mp hcode)

/-- A literal is given by its symbol and its sign. -/
lemma pack_eq_iff {l : Literal} {sign : Sign} : pack l.symbol sign = l ↔ sign = l.sign := by
  constructor
  · intro h
    rw [← sign_pack l.symbol_le_symbolLimit sign, h]
  · rintro rfl
    exact l.pack_symbol_sign

/-- Two literals of one symbol differ in the sign if at all. -/
lemma eq_of_sign_eq {k l : Literal} (hsymbol : k.symbol = l.symbol) (hsign : k.sign = l.sign) :
    k = l := by
  rw [← k.pack_symbol_sign, hsymbol, hsign, l.pack_symbol_sign]

lemma ofSymbol_eq_error_iff {s : Nat} {sign : Sign} :
    ofSymbol s sign = .error .literalTooLarge ↔ symbolLimit ≤ s := by
  rw [ofSymbol]
  by_cases h : s < symbolLimit
  · rw [if_pos h]
    simpa using h
  · rw [if_neg h]
    simpa using h

lemma encodes (l : Literal) : l.Encodes l.symbol l.sign :=
  ⟨l.toNat_code, rfl, rfl, by simp [isNegated]⟩

lemma encodes_of_ofSymbol {s : Nat} {sign : Sign} {l : Literal} (h : ofSymbol s sign = .ok l) :
    l.Encodes s sign := by
  rw [ofSymbol] at h
  by_cases hs : s < symbolLimit
  · rw [if_pos hs] at h
    obtain rfl := Except.ok.inj h
    have hencodes := (pack s sign).encodes
    rwa [symbol_pack (Nat.le_of_lt hs), sign_pack (Nat.le_of_lt hs)] at hencodes
  · rw [if_neg hs] at h
    cases h

lemma negate_pack {s : Nat} (h : s ≤ symbolLimit) (sign : Sign) :
    (pack s sign).negate = pack s sign.flip := by
  rw [← (pack s sign).negate.pack_symbol_sign, symbol_negate, sign_negate, symbol_pack h,
    sign_pack h]

/-- The order of pairs is that of the numbers they are packed into. -/
lemma precedes_iff {s t : Nat} {x y : Sign} :
    Precedes (s, x) (t, y) ↔ 2 * s + x.satisfying.toNat < 2 * t + y.satisfying.toNat := by
  have hx := x.satisfying.toNat_le
  have hy := y.satisfying.toNat_le
  rw [Precedes, Prod.lex_def, Sign.precedes_iff]
  dsimp only
  omega

lemma under_negate (l : Literal) (value : Option Bool) :
    l.negate.under value = (l.under value).map not := by
  rw [under, under, sign_negate, Sign.satisfying_flip, Option.map_map]
  congr 1
  funext b
  cases b <;> cases l.sign.satisfying <;> rfl

namespace Encodes

variable {l m : Literal} {s t : Nat} {x y : Sign}

lemma code_eq_iff (hl : l.Encodes s x) (hm : m.Encodes t y) :
    l.code = m.code ↔ s = t ∧ x = y := by
  constructor
  · intro h
    have hlm : l = m := congrArg Literal.mk h
    rw [← hl.symbol_eq, ← hl.sign_eq, ← hm.symbol_eq, ← hm.sign_eq, hlm]
    exact ⟨rfl, rfl⟩
  · rintro ⟨rfl, rfl⟩
    rw [eq_of_sign_eq (hl.symbol_eq.trans hm.symbol_eq.symm) (hl.sign_eq.trans hm.sign_eq.symm)]

lemma code_lt_iff (hl : l.Encodes s x) (hm : m.Encodes t y) :
    l.code < m.code ↔ Precedes (s, x) (t, y) := by
  rw [precedes_iff, UInt64.lt_iff_toNat_lt, hl.toNat_code_eq, hm.toNat_code_eq]

lemma compare_eq_lt_iff (hl : l.Encodes s x) (hm : m.Encodes t y) :
    compare l m = .lt ↔ Precedes (s, x) (t, y) := by
  change compare l.code m.code = .lt ↔ _
  rw [Std.compare_eq_lt, hl.code_lt_iff hm]

lemma compare_eq_gt_iff (hl : l.Encodes s x) (hm : m.Encodes t y) :
    compare l m = .gt ↔ Precedes (t, y) (s, x) := by
  change compare l.code m.code = .gt ↔ _
  rw [Std.compare_eq_gt, hm.code_lt_iff hl]

end Encodes

end Literal

namespace Valuation

lemma evaluate_negate (v : Valuation) (l : Literal) :
    v.evaluate l.negate = Option.map not <$> v.evaluate l := by
  rw [evaluate, evaluate, Literal.symbol_negate]
  cases v.value l.symbol with
  | error fault => rfl
  | ok value => exact congrArg Except.ok (l.under_negate value)

lemma evaluate_eq_true_iff {v : Valuation} {l : Literal} :
    v.evaluate l = .ok (some true) ↔ v.value l.symbol = .ok (some l.sign.satisfying) := by
  rw [evaluate]
  cases v.value l.symbol with
  | error fault => simp [Functor.map, Except.map]
  | ok value => simp [Functor.map, Except.map, Literal.under]

end Valuation

namespace Literal

/-- A symbol and a sign are refused if and only if the symbol reaches the limit. Otherwise the shift
loses no bit, the word gives the symbol and the sign back, and no other pair has the same word. Its
negation stands for the same symbol with the other sign and has the opposite value wherever it has
one. Words compare by symbol and, for one symbol, with the negative sign first. -/
theorem ofSymbol_encodes (s : Nat) (sign : Sign) :
    (ofSymbol s sign = .error .literalTooLarge ↔ 2 ^ 63 - 1 ≤ s) ∧
      (s < 2 ^ 63 - 1 → ∃ l, ofSymbol s sign = .ok l ∧
        (s.toUInt64 <<< 1).toNat = s <<< 1 ∧ l.Encodes s sign ∧
        ofSymbol s sign.flip = .ok l.negate ∧ l.negate.Encodes s sign.flip ∧
        sign.flip ≠ sign ∧ l.negate.negate = l ∧
        (∀ v : Valuation,
          (v.evaluate l = .ok (some true) ↔ v.value s = .ok (some sign.satisfying)) ∧
          v.evaluate l.negate = Option.map not <$> v.evaluate l) ∧
        ∀ t sign' m, ofSymbol t sign' = .ok m →
          (l.code = m.code ↔ s = t ∧ sign = sign') ∧
          (compare l m = .lt ↔ Precedes (s, sign) (t, sign')) ∧
          (compare l m = .gt ↔ Precedes (t, sign') (s, sign))) := by
  refine ⟨ofSymbol_eq_error_iff, fun hs => ?_⟩
  have hok : ∀ x, ofSymbol s x = .ok (pack s x) := fun x => if_pos hs
  have hl : (pack s sign).Encodes s sign := encodes_of_ofSymbol (hok sign)
  have hnegate : ofSymbol s sign.flip = .ok (pack s sign).negate := by
    rw [hok, negate_pack (Nat.le_of_lt hs)]
  refine ⟨_, hok sign, toNat_shiftLeft_one (Nat.le_of_lt hs), hl, hnegate,
    encodes_of_ofSymbol hnegate, sign.flip_ne, negate_negate _, fun v => ⟨?_, v.evaluate_negate _⟩,
    fun t sign' m hm => ?_⟩
  · rw [Valuation.evaluate_eq_true_iff, hl.symbol_eq, hl.sign_eq]
  · have hm' := encodes_of_ofSymbol hm
    exact ⟨hl.code_eq_iff hm', hl.compare_eq_lt_iff hm', hl.compare_eq_gt_iff hm'⟩

/-- The last symbol below the limit, whose positive literal has all bits of the word set but one,
beside its negation and the symbol before it. -/
theorem ofSymbol_encodes_sample :
    9223372036854775806 < 2 ^ 63 - 1 ∧ ∃ l k m,
      ofSymbol 9223372036854775806 .positive = .ok l ∧ l.code = 0xfffffffffffffffd ∧
      l.symbol = 9223372036854775806 ∧ l.sign = .positive ∧
      ofSymbol 9223372036854775806 .negative = .ok k ∧ k = l.negate ∧ l.code ≠ k.code ∧
      compare l k = .gt ∧
      ofSymbol 9223372036854775805 .positive = .ok m ∧ l.code ≠ m.code ∧ compare l m = .gt := by
  have hs : 9223372036854775806 < 2 ^ 63 - 1 := by decide
  obtain ⟨l, hl, -, hencodes, hk, -, -, -, -, horder⟩ :=
    (ofSymbol_encodes 9223372036854775806 .positive).2 hs
  have hm : ofSymbol 9223372036854775805 .positive = .ok (pack 9223372036854775805 .positive) := rfl
  obtain ⟨hcode, -, hgt⟩ := horder _ _ _ hk
  obtain ⟨hcode', -, hgt'⟩ := horder _ _ _ hm
  refine ⟨hs, l, _, _, hl, ?_, hencodes.symbol_eq, hencodes.sign_eq, hk, rfl, ?_, ?_, hm, ?_, ?_⟩
  · rw [← UInt64.toNat_inj, hencodes.toNat_code_eq]
    rfl
  · exact mt hcode.mp (by decide)
  · rw [hgt, precedes_iff]
    decide
  · exact mt hcode'.mp (by decide)
  · rw [hgt', precedes_iff]
    decide

end Literal

end Dpll
