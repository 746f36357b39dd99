import Mathlib

/-!
# Integers are finite numbers

A number that is read where a floating-point number is wanted may be an integer of 64 bits, signed or not.
It is rounded to the nearest number, which is far from the largest one and hence finite. Rounding moves an
exponent by no more than the length of the mantissa; `Bounded` keeps both in sight through rounding,
packing and multiplication.
-/

namespace Redraw.Decimal

open Float.Model Float.Model.UnpackedFloat

/-- A number of a mantissa of at most `k` bits and an exponent of at most `b`, or a zero. -/
def Bounded (k : Nat) (b : Int) : UnpackedFloat → Prop
  | .zero _ => True
  | .finite _ m e _ => m < 2 ^ k ∧ e ≤ b
  | .infinity _ | .notANumber => False

theorem Bounded.mono {k l : Nat} {b c : Int} {u : UnpackedFloat} (small : Bounded k b u)
    (long : k ≤ l) (high : b ≤ c) : Bounded l c u := by
  cases u with
  | infinity s => exact small.elim
  | notANumber => exact small.elim
  | zero s => trivial
  | finite s m e pos =>
    obtain ⟨short, low⟩ := small
    exact ⟨Nat.lt_of_lt_of_le short (Nat.pow_le_pow_right (by omega) long), by omega⟩

/-! ## Rounding -/

/-- Bits are only taken away from a mantissa. -/
theorem mantissa_shiftRight_le (m : ExtendedMantissa) (n : Nat) :
    (m >>> n).mantissa ≤ m.mantissa := by
  induction n with
  | zero => exact Nat.le_refl _
  | succ n ih =>
    have half : (m >>> (n + 1)).mantissa = (m >>> n).mantissa / 2 := rfl
    omega

theorem roundedMantissa_le (m : ExtendedMantissa) : m.roundedMantissa ≤ m.mantissa + 1 := by
  obtain ⟨mantissa, round, sticky⟩ := m
  cases round <;> cases sticky <;>
    simp only [ExtendedMantissa.roundedMantissa, ExtendedMantissa.accuracy,
      Accuracy.roundToNearestEven] <;>
    omega

theorem mantissa_ofMantissaAndAccuracy (m : Nat) (a : Accuracy) :
    (ExtendedMantissa.ofMantissaAndAccuracy m a).mantissa = m := by
  cases a with
  | exact => rfl
  | inexact o => cases o <;> rfl

theorem log2_le {m k : Nat} (short : m < 2 ^ k) : m.log2 ≤ k := by
  by_cases zero : m = 0
  · subst zero
    exact Nat.zero_le k
  · exact Nat.le_of_lt ((Nat.log2_lt zero).2 short)

/-- Shifting takes bits away and moves the exponent by the length of the mantissa at most. -/
theorem shiftToTargetExponent_bounded {m k : Nat} {e b : Int} (short : m < 2 ^ k) (low : e ≤ b)
    (nonneg : 0 ≤ b) (a : Accuracy) :
    (shiftToTargetExponent .binary64 m e a).1.mantissa ≤ m ∧
      (shiftToTargetExponent .binary64 m e a).2 ≤ b + k := by
  have log := log2_le short
  constructor
  · have shifted := mantissa_shiftRight_le (.ofMantissaAndAccuracy m a)
      (Format.binary64.targetExponent (totalExponent m e) - e).toNat
    rwa [mantissa_ofMantissaAndAccuracy] at shifted
  · have target : Format.binary64.targetExponent (totalExponent m e) ≤ b + k := by
      simp only [Format.targetExponent, totalExponent, Format.mantissaBits, Format.minExponent]
      omega
    simp only [shiftToTargetExponent, shiftToExponent]
    omega

theorem roundWithAccuracy_bounded {m k : Nat} {e b : Int} (short : m < 2 ^ k) (low : e ≤ b)
    (nonneg : 0 ≤ b) (s : Sign) (a : Accuracy) :
    Bounded (k + 1) (b + k + (k + 1 : Nat)) (roundWithAccuracy .binary64 s m e a) := by
  obtain ⟨shifted, moved⟩ := shiftToTargetExponent_bounded short low nonneg a
  unfold roundWithAccuracy
  generalize shiftToTargetExponent .binary64 m e a = first at shifted moved
  obtain ⟨em, e₁⟩ := first
  dsimp only at shifted moved
  have rounded := roundedMantissa_le em
  have double : 2 ^ (k + 1) = 2 * 2 ^ k := Nat.pow_succ'
  have short' : em.roundedMantissa < 2 ^ (k + 1) := by omega
  obtain ⟨shifted', moved'⟩ :=
    shiftToTargetExponent_bounded short' moved (by omega) .exact
  dsimp only
  split
  · trivial
  · exact ⟨by omega, moved'⟩

/-! ## Packing -/

/-- The exponent of a packed number, as it is stored: none of the reserved ones, and as low as the number
is. -/
theorem exponent_pack {u : UnpackedFloat} {k : Nat} {b : Int} (small : Bounded k b u)
    (nonneg : 0 ≤ b) (low : b < 971) :
    ∃ n : Nat, unpackExponent (UnpackedFloat.pack .binary64 u) = BitVec.ofNat 11 n ∧ n < 2047 ∧
      (n : Int) ≤ b + 1075 := by
  cases u with
  | infinity s => exact small.elim
  | notANumber => exact small.elim
  | zero s => exact ⟨0, unpackExponent_packComponents, by omega, by omega⟩
  | finite s m e pos =>
    have below : e ≤ b := small.2
    have bias : (Format.binary64.exponentBias : Int) = 1023 := rfl
    let n : Nat := (e + Format.binary64.exponentBias + 52).toNat
    have size : n < 2047 := by omega
    have fits : ¬ 2 ^ 11 ≤ n + 1 := by omega
    unfold UnpackedFloat.pack
    change ∃ n', unpackExponent (if 2 ^ 11 ≤ n + 1 then _ else
      if m.log2 + 1 = Format.binary64.mantissaBits then _ else _) = _ ∧ _
    rw [if_neg fits]
    split
    · exact ⟨n, unpackExponent_packComponents, size, by omega⟩
    · exact ⟨0, unpackExponent_packComponents, by omega, by omega⟩

/-- Where the stored exponent is none of the reserved ones, the number is a zero, or its mantissa and its
exponent are those of the format. -/
theorem unpack_bounded {bits : BitVec Format.binary64.numBits} {n : Nat} {b : Int}
    (exponent : unpackExponent bits = BitVec.ofNat 11 n) (fits : n < 2047)
    (low : (n : Int) ≤ b + 1075) (nonneg : 0 ≤ b) :
    Bounded 53 b (UnpackedFloat.unpack .binary64 bits) := by
  have bias : (Format.binary64.exponentBias : Int) = 1023 := rfl
  have value : (unpackExponent bits).toNat = n := by
    rw [exponent, BitVec.toNat_ofNat]
    exact Nat.mod_eq_of_lt (by omega : n < 2048)
  have finite : unpackExponent bits ≠ -1#11 := by
    intro reserved
    rw [reserved] at value
    have : (-1#11 : BitVec 11).toNat = 2047 := rfl
    omega
  unfold UnpackedFloat.unpack
  dsimp only
  rw [if_neg finite, value, bias]
  split
  · next zero =>
    split
    · trivial
    · have mantissa : (unpackMantissa bits).toNat < 2 ^ 52 := (unpackMantissa bits).isLt
      have stored : n = 0 := by
        rw [← value, zero]
        rfl
      exact ⟨by omega, by omega⟩
  · exact ⟨BitVec.isLt _, by omega⟩

/-- A number whose exponent is far below the largest is packed as it is. -/
theorem pack_bounded {u : UnpackedFloat} {k : Nat} {b : Int} (small : Bounded k b u)
    (nonneg : 0 ≤ b) (low : b < 971) : Bounded 53 b (pack u).unpack := by
  obtain ⟨n, exponent, fits, below⟩ := exponent_pack small nonneg low
  exact unpack_bounded exponent fits below nonneg

theorem isFinite_of_bounded {u : UnpackedFloat} {k : Nat} {b : Int} (small : Bounded k b u) :
    u.isFinite = true := by
  cases u with
  | infinity s => exact small.elim
  | notANumber => exact small.elim
  | zero s => rfl
  | finite s m e pos => rfl

/-! ## Integers -/

theorem mul_bounded {u v : UnpackedFloat} {k l : Nat} {b c : Int} (left : Bounded k b u)
    (right : Bounded l c v) (nonneg : 0 ≤ b + c) :
    Bounded (k + l + 1) (b + c + (k + l : Nat) + (k + l + 1 : Nat)) (mul .binary64 u v) := by
  cases u with
  | infinity s => exact left.elim
  | notANumber => exact left.elim
  | zero s =>
    cases v with
    | infinity s => exact right.elim
    | notANumber => exact right.elim
    | zero s => trivial
    | finite s m e pos => trivial
  | finite s m e pos =>
    cases v with
    | infinity s => exact right.elim
    | notANumber => exact right.elim
    | zero s => trivial
    | finite s' m' e' pos' =>
      have short : m * m' < 2 ^ (k + l) := by
        rw [Nat.pow_add]
        exact Nat.mul_lt_mul_of_lt_of_lt left.1 right.1
      have low : e + e' ≤ b + c := by
        have := left.2
        have := right.2
        omega
      exact roundWithAccuracy_bounded short low nonneg _ _

theorem ofNat_small {n k : Nat} (short : n < 2 ^ k) :
    Bounded (k + 53) (k + 52 + (k + 53 : Nat)) (UnpackedFloat.ofNat .binary64 n) := by
  unfold UnpackedFloat.ofNat UnpackedFloat.ofInt UnpackedFloat.normalize
  cases sign : compare (n : Int) 0 with
  | lt =>
    have negative : (n : Int) < 0 := Int.compare_eq_lt.1 sign
    omega
  | eq => trivial
  | gt =>
    -- Rounding lets the mantissa grow to the length of the format first.
    let target := Format.binary64.targetExponent (totalExponent n 0)
    have grown : (0 - target).toNat ≤ 52 := by
      simp only [target, Format.targetExponent, totalExponent, Format.mantissaBits,
        Format.minExponent]
      omega
    have long : n <<< (0 - target).toNat < 2 ^ (k + 52) := by
      rw [Nat.shiftLeft_eq, Nat.pow_add]
      exact Nat.mul_lt_mul_of_lt_of_le short (Nat.pow_le_pow_right (by omega) grown) (by simp)
    have low : (0 : Int) - (0 - target).toNat ≤ 0 := by omega
    have bounded := roundWithAccuracy_bounded long low (by omega) .positive .exact
    rw [Int.zero_add] at bounded
    exact bounded

/-- The number one is among the powers of ten that are kept as numbers. -/
theorem one_bounded :
    Bounded 53 0 (Float.ofBits 0x3FF0000000000000).toModel.unpack :=
  ⟨by decide, by decide⟩

/-- An integer that fits in the mantissa is multiplied by one. -/
theorem ofNat_bounded_of_short {n : Nat} (short : n < 2 ^ 53) :
    Bounded 53 600 (Float.ofNat n).toModel.unpack := by
  have size : n.toUInt64.toNat = n := UInt64.toNat_ofNat_of_lt' (Nat.lt_trans short (by decide))
  have product : Float.ofNat n = n.toUInt64.toFloat * Float.ofBits 0x3FF0000000000000 := by
    show Float.ofScientific n false 0 = _
    unfold Float.ofScientific
    rw [dif_pos ⟨short, by decide⟩]
    rfl
  have packed : (n.toUInt64.toFloat * Float.ofBits 0x3FF0000000000000).toModel.unpack =
      (pack (mul .binary64 (pack (UnpackedFloat.ofNat .binary64 n.toUInt64.toNat)).unpack
        (Float.ofBits 0x3FF0000000000000).toModel.unpack)).unpack := rfl
  have factor := pack_bounded (ofNat_small short) (by omega) (by omega)
  have result := pack_bounded (mul_bounded factor one_bounded (by omega)) (by omega) (by omega)
  rw [product, packed, size]
  exact result.mono (by omega) (by omega)

/-- A product of numbers that are far from the largest is packed as it is. -/
theorem pack_mul_bounded {m p : Nat} {e d : Int} (short : m < 2 ^ 117) (bit : p < 2 ^ 1)
    (low : e ≤ 0) (low' : d ≤ 0) (pos : 0 < m) (pos' : 0 < p) :
    Bounded 53 600
      (pack (mul .binary64 (.finite .positive m e pos) (.finite .positive p d pos'))).unpack := by
  have left : Bounded 117 0 (.finite .positive m e pos) := ⟨short, low⟩
  have right : Bounded 1 0 (.finite .positive p d pos') := ⟨bit, low'⟩
  have result := pack_bounded (mul_bounded left right (by omega)) (by omega) (by omega)
  exact result.mono (by omega) (by omega)

/-- A longer integer is multiplied by the zeroth power of ten. -/
theorem ofNat_bounded_of_long {n : Nat} (long : ¬ n < 2 ^ 53) (fits : n < 2 ^ 64) :
    Bounded 53 600 (Float.ofNat n).toModel.unpack := by
  have model : Float.ofNat n = ⟨Float.Model.ofScientific n 0⟩ := by
    show Float.ofScientific n false 0 = _
    unfold Float.ofScientific
    rw [dif_neg fun fast => long fast.1]
    rfl
  have packed : (Float.Model.ofScientific n 0).unpack =
      (pack (UnpackedFloat.ofScientific .binary64 n 0)).unpack := rfl
  have positive : n ≠ 0 := by omega
  have large : ¬ (0 : Int) < -((2 ^ Format.binary64.exponentBits : Int) + n.log2) := by
    have : (2 : Int) ^ Format.binary64.exponentBits = 2048 := rfl
    omega
  have short : n <<< 53 < 2 ^ 117 := by
    rw [Nat.shiftLeft_eq]
    omega
  rw [model, packed]
  unfold UnpackedFloat.ofScientific
  rw [dif_neg positive, if_neg (by decide), if_neg large, if_pos (Int.le_refl 0)]
  exact pack_mul_bounded short (by decide) (by decide) (by decide) _ _

theorem ofNat_bounded {n : Nat} (fits : n < 2 ^ 64) :
    Bounded 53 600 (Float.ofNat n).toModel.unpack := by
  by_cases short : n < 2 ^ 53
  · exact ofNat_bounded_of_short short
  · exact ofNat_bounded_of_long short fits

theorem isFinite_neg {x : Float} {k : Nat} {b : Int} (small : Bounded k b x.toModel.unpack)
    (nonneg : 0 ≤ b) (low : b < 971) : x.neg.isFinite = true := by
  have packed : x.neg.isFinite = (pack x.toModel.unpack.neg).unpack.isFinite := rfl
  have negated : Bounded k b x.toModel.unpack.neg := by
    revert small
    cases x.toModel.unpack with
    | infinity s => exact False.elim
    | notANumber => exact False.elim
    | zero s => exact id
    | finite s m e pos => exact id
  rw [packed]
  exact isFinite_of_bounded (pack_bounded negated nonneg low)

/-- An integer of 64 bits, signed or not, is a finite number. -/
theorem isFinite_ofInt {i : Int} (fits : -0x8000000000000000 ≤ i ∧ i < 0x10000000000000000) :
    (Float.ofInt i).isFinite = true := by
  cases i with
  | ofNat n =>
    have small : n < 2 ^ 64 := Int.ofNat_lt.1 fits.2
    exact isFinite_of_bounded (ofNat_bounded small)
  | negSucc n =>
    have small : n.succ < 2 ^ 64 := by
      have := fits.1
      omega
    exact isFinite_neg (ofNat_bounded small) (by omega) (by omega)

end Redraw.Decimal
