import Dpll.Fault

/-!
Signs and literals. A literal is one 64-bit word: the index of its symbol, shifted left by one,
beside a bit that is set for a positive literal. So literals compare first by symbol, then
negative before positive, and negation flips the lowest bit.
-/

namespace Dpll

inductive Sign where
  | positive
  | negative
  deriving DecidableEq, Repr

namespace Sign

/-- The truth value that a symbol needs for a literal of this sign to hold. -/
def satisfying : Sign → Bool
  | positive => true
  | negative => false

def ofBool : Bool → Sign
  | true => positive
  | false => negative

def flip : Sign → Sign
  | positive => negative
  | negative => positive

theorem flip_ofBool (b : Bool) : (ofBool b).flip = ofBool !b := by
  cases b <;> rfl

/-- What a clause line writes in front of the id. -/
def mark : Sign → String
  | positive => ""
  | negative => "-"

def describe : Sign → String
  | positive => "+"
  | negative => "-"

end Sign

/-- A symbol, given by its index, together with a sign. -/
structure Literal where
  code : UInt64
  deriving DecidableEq, Repr

namespace Literal

/-- Indices from here on are refused. -/
def symbolLimit : Nat := 0x7fffffffffffffff

/-- The word for a symbol below `symbolLimit`. -/
def pack (symbol : Nat) (sign : Sign) : Literal :=
  ⟨symbol.toUInt64 <<< 1 ||| sign.satisfying.toUInt64⟩

def ofSymbol (symbol : Nat) (sign : Sign) : Except Fault Literal :=
  if symbol < symbolLimit then .ok (pack symbol sign) else .error .literalTooLarge

def symbol (l : Literal) : Nat :=
  (l.code >>> 1).toNat

def sign (l : Literal) : Sign :=
  .ofBool (l.code &&& 1 == 1)

def isNegated (l : Literal) : Bool :=
  l.sign = .negative

def negate (l : Literal) : Literal :=
  ⟨l.code ^^^ 1⟩

/-- The value of the literal where its symbol has the given one. -/
def under (l : Literal) (value : Option Bool) : Option Bool :=
  value.map (· == l.sign.satisfying)

def describe (l : Literal) : String :=
  s!"{l.sign.describe}#{l.symbol}"

instance : Ord Literal := ⟨fun a b => compare a.code b.code⟩

/-! What the word says, as a number. -/

/-- Below the limit the shift loses no bit. -/
theorem toNat_shiftLeft_one {symbol : Nat} (h : symbol ≤ symbolLimit) :
    (symbol.toUInt64 <<< 1).toNat = symbol <<< 1 := by
  unfold symbolLimit at h
  simp only [UInt64.toNat_shiftLeft, Nat.toUInt64, UInt64.toNat_ofNat', Nat.shiftLeft_eq]
  change symbol % 18446744073709551616 * 2 % 18446744073709551616 = symbol * 2
  omega

theorem toNat_code_pack {symbol : Nat} (h : symbol ≤ symbolLimit) (sign : Sign) :
    (pack symbol sign).code.toNat = 2 * symbol + sign.satisfying.toNat := by
  rw [pack, UInt64.toNat_or, toNat_shiftLeft_one h]
  cases sign with
  | positive =>
    rw [show Sign.positive.satisfying.toUInt64.toNat = 1 from rfl,
      ← Nat.shiftLeft_add_eq_or_of_lt (by omega), Nat.shiftLeft_eq, Nat.mul_comm]
    rfl
  | negative =>
    rw [show Sign.negative.satisfying.toUInt64.toNat = 0 from rfl, Nat.or_zero,
      Nat.shiftLeft_eq, Nat.mul_comm]
    rfl

theorem toNat_code_negate (l : Literal) : l.negate.code.toNat = l.code.toNat ^^^ 1 := by
  simp [negate]

theorem symbol_eq (l : Literal) : l.symbol = l.code.toNat / 2 := by
  simp [symbol, UInt64.toNat_shiftRight, Nat.shiftRight_eq_div_pow]

theorem sign_eq (l : Literal) : l.sign = .ofBool (l.code.toNat % 2 == 1) := by
  unfold sign
  congr 1
  rw [Bool.eq_iff_iff, beq_iff_eq, beq_iff_eq, ← UInt64.toNat_inj, UInt64.toNat_and,
    show (1 : UInt64).toNat = 1 from rfl, Nat.and_one_is_mod]

theorem symbol_pack {symbol : Nat} (h : symbol ≤ symbolLimit) (sign : Sign) :
    (pack symbol sign).symbol = symbol := by
  rw [symbol_eq, toNat_code_pack h]
  cases sign.satisfying <;> simp
  omega

theorem sign_pack {symbol : Nat} (h : symbol ≤ symbolLimit) (sign : Sign) :
    (pack symbol sign).sign = sign := by
  rw [sign_eq, toNat_code_pack h]
  cases sign <;> simp [Sign.satisfying, Sign.ofBool]

@[simp] theorem symbol_negate (l : Literal) : l.negate.symbol = l.symbol := by
  simp [symbol_eq, toNat_code_negate, Nat.xor_div_two]

@[simp] theorem sign_negate (l : Literal) : l.negate.sign = l.sign.flip := by
  rw [sign_eq, sign_eq, toNat_code_negate, Sign.flip_ofBool]
  congr 1
  rw [Bool.eq_iff_iff, beq_iff_eq, Nat.xor_mod_two_eq_one]
  simp

@[simp] theorem negate_negate (l : Literal) : l.negate.negate = l := by
  simp only [negate, UInt64.xor_assoc, UInt64.xor_self, UInt64.xor_zero]

end Literal

end Dpll
