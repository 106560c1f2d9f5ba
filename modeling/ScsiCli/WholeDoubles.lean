import Mathlib

/-!
# Whole numbers as doubles

A number below `2^53` has a significand to itself: the nearest double is the
number, it survives the packing into 64 bits, and the conversion back to an
`int` finds it again where it fits.
-/

set_option autoImplicit false

namespace ScsiCli.WholeDoubles
open Float.Model

/-- The `double` that a 64-bit unsigned number is converted to. -/
def ofUnsigned (n : ℕ) : Float.Model := Float.Model.ofUInt64 (UInt64.ofNat n)

/-- The `int` that a `double` is converted to: truncated, where it is in range. -/
def toInt (x : Float.Model) : ℤ := (Float.Model.toInt32 x).toInt

def value (x : Float.Model) : Option ℚ :=
  match x.unpack with
  | .zero _ => some 0
  | .finite s m e _ => some ((s.apply m : ℤ)*2^e)
  | _ => none

/-! ## Rounding -/

theorem log2_shiftLeft {n : ℕ} (hn : n ≠ 0) (k : ℕ) : (n <<< k).log2 = n.log2+k := by
  have hp : 0 < 2^k := Nat.two_pow_pos k
  have h0 : n <<< k ≠ 0 := by
    rw [Nat.shiftLeft_eq]
    positivity
  rw [Nat.log2_eq_iff h0, Nat.shiftLeft_eq, show n.log2+k+1 = n.log2+1+k by omega, pow_add,
    pow_add]
  constructor
  · exact Nat.mul_le_mul_right _ (Nat.log2_self_le hn)
  · exact Nat.mul_lt_mul_of_pos_right Nat.lt_log2_self hp

theorem targetExponent_eq {m : ℕ} {e : ℤ} (h : 0 ≤ m.log2+e) :
    Format.binary64.targetExponent (totalExponent m e) = m.log2+e-52 := by
  simp only [Format.targetExponent, totalExponent, Format.mantissaBits, Format.minExponent]
  omega

theorem shiftToTargetExponent_eq {m : ℕ} {e : ℤ} (hm : m.log2 = 52) (he : -52 ≤ e) :
    UnpackedFloat.shiftToTargetExponent Format.binary64 m e .exact = (⟨m,false,false⟩,e) := by
  have ht := @targetExponent_eq m e (by omega)
  rw [hm] at ht
  rw [UnpackedFloat.shiftToTargetExponent, ht]
  simp [UnpackedFloat.shiftToExponent, UnpackedFloat.ExtendedMantissa.ofMantissaAndAccuracy,
    HShiftRight.hShiftRight, Nat.repeat]

theorem ofNat_eq {n : ℕ} (h0 : n ≠ 0) (h : n < 2^53) (hm : 0 < n <<< (52-n.log2)) :
    UnpackedFloat.ofNat Format.binary64 n =
      .finite .positive (n <<< (52-n.log2)) (n.log2-52) hm := by
  have hl : n.log2 ≤ 52 := by
    have := (Nat.log2_lt h0).mpr h
    omega
  have hc : compare (n : ℤ) 0 = .gt := by
    rw [compare_gt_iff_gt]
    omega
  have hs : (n <<< (52-n.log2)).log2 = 52 := by
    rw [log2_shiftLeft h0]
    omega
  have ht := @targetExponent_eq n 0 (by omega)
  have hk : (0-((n.log2 : ℤ)+0-52)).toNat = 52-n.log2 := by omega
  have he : (0 : ℤ)-((52-n.log2 : ℕ) : ℤ) = n.log2-52 := by omega
  have hr := @shiftToTargetExponent_eq _ (n.log2-52) hs (by omega)
  unfold UnpackedFloat.ofNat UnpackedFloat.ofInt UnpackedFloat.normalize
  rw [hc]
  simp only [Int.toNat_natCast, UnpackedFloat.round, ht, UnpackedFloat.decreaseExponent, hk, he,
    UnpackedFloat.roundWithAccuracy, UnpackedFloat.ExtendedMantissa.roundedMantissa,
    UnpackedFloat.ExtendedMantissa.accuracy, UnpackedFloat.Accuracy.roundToNearestEven, hr]
  rw [dif_neg (by omega)]

/-! ## Packing -/

theorem ofNat_ne {w n k : ℕ} (hn : n < 2^w) (hk : k < 2^w) (h : n ≠ k) :
    BitVec.ofNat w n ≠ BitVec.ofNat w k := by
  intro he
  have ht := congrArg BitVec.toNat he
  rw [BitVec.toNat_ofNat, BitVec.toNat_ofNat, Nat.mod_eq_of_lt hn, Nat.mod_eq_of_lt hk] at ht
  exact h ht

theorem unpack_pack {m : ℕ} {e : ℤ} (hm : m.log2 = 52) (h0 : 0 < m) (he : -52 ≤ e) (he' : e ≤ 0) :
    UnpackedFloat.unpack Format.binary64
      (UnpackedFloat.pack Format.binary64 (.finite .positive m e h0)) =
        .finite .positive m e h0 := by
  obtain ⟨hlo,hhi⟩ := (Nat.log2_eq_iff (by omega)).mp hm
  have hbias : Format.binary64.exponentBias = 1023 := by decide
  have hb : (e+(1023 : ℕ)+(52 : ℕ)).toNat = (e+1075).toNat := by omega
  have hx : (BitVec.ofNat 11 (e+1075).toNat).toNat = (e+1075).toNat :=
    Nat.mod_eq_of_lt (by omega)
  have h1 : BitVec.ofNat 11 (e+1075).toNat ≠ -1#11 :=
    ofNat_ne (k := 2047) (by omega) (by omega) (by omega)
  have h2 : BitVec.ofNat 11 (e+1075).toNat ≠ 0#11 := ofNat_ne (by omega) (by omega) (by omega)
  -- the leading one is left out of the 52 bits and put back in front of them
  have hv : (1#1 ++ BitVec.ofNat 52 m).toNat = m := by
    have hs : m % 2^52 = m-2^52 := by omega
    have hor := Nat.two_pow_add_eq_or_of_lt (show m-2^52 < 2^52 by omega) 1
    rw [BitVec.toNat_append, BitVec.toNat_ofNat, BitVec.toNat_ofNat, hs, Nat.shiftLeft_eq,
      show 1 % 2^1*2^52 = 2^52*1 by omega, ← hor]
    omega
  simp only [UnpackedFloat.pack, hm, hbias, hb, Format.mantissaBits]
  rw [if_neg (by omega), if_pos trivial]
  simp only [UnpackedFloat.unpack, UnpackedFloat.unpackExponent_packComponents,
    UnpackedFloat.unpackMantissa_packComponents, UnpackedFloat.unpackSign_packComponents]
  rw [if_neg h1, if_neg h2]
  simp only [hx, hbias, hv, UnpackedFloat.Sign.ofBitVec_toBitVec]
  congr 1
  omega

theorem unpack_zero : (ofUnsigned 0).unpack = .zero .positive := rfl

theorem unpack_ofUnsigned {n : ℕ} (h0 : n ≠ 0) (h : n < 2^53) :
    ∃ hm, (ofUnsigned n).unpack = .finite .positive (n <<< (52-n.log2)) (n.log2-52) hm := by
  have hl : n.log2 ≤ 52 := by
    have := (Nat.log2_lt h0).mpr h
    omega
  have hs : (n <<< (52-n.log2)).log2 = 52 := by
    rw [log2_shiftLeft h0]
    omega
  have hm : 0 < n <<< (52-n.log2) := by
    rw [Nat.shiftLeft_eq]
    positivity
  have hn : (UInt64.ofNat n).toNat = n := by
    rw [UInt64.toNat_ofNat']
    exact Nat.mod_eq_of_lt (by omega)
  have hp := @unpack_pack _ (n.log2-52) hs hm (by omega) (by omega)
  refine ⟨hm,?_⟩
  rw [← hp, ← ofNat_eq h0 h hm]
  change UnpackedFloat.unpack _ (UnpackedFloat.pack _ (UnpackedFloat.ofNat _
    (UInt64.ofNat n).toNat)) = _
  rw [hn]

/-! ## Exactness -/

theorem shiftRight_mantissa (em : UnpackedFloat.ExtendedMantissa) (k : ℕ) :
    (em >>> k).mantissa = em.mantissa / 2^k := by
  induction k with
  | zero => simp [HShiftRight.hShiftRight, Nat.repeat]
  | succ k ih =>
    change (em >>> k).mantissa / 2 = _
    rw [ih, Nat.div_div_eq_div_mul, pow_succ]

theorem value_ofUnsigned {n : ℕ} (h : n < 2^53) : value (ofUnsigned n) = some (n : ℚ) := by
  by_cases h0 : n = 0
  · rw [h0, value, unpack_zero]
    rfl
  · have hl : n.log2 ≤ 52 := by
      have := (Nat.log2_lt h0).mpr h
      omega
    obtain ⟨hm,hu⟩ := unpack_ofUnsigned h0 h
    have he : (n.log2 : ℤ)-52 = -((52-n.log2 : ℕ) : ℤ) := by omega
    rw [value, hu]
    simp only [UnpackedFloat.Sign.apply, Nat.shiftLeft_eq, Option.some.injEq, he, zpow_neg,
      zpow_natCast]
    push_cast
    rw [mul_assoc, mul_inv_cancel₀ (by positivity), mul_one]

theorem toInt_ofUnsigned {n : ℕ} (h : n < 2^31) : toInt (ofUnsigned n) = n := by
  have hc : (Int32.ofIntClamp (n : ℤ)).toInt = n := by
    have hmin : Int32.minValue.toInt = -2^31 := rfl
    have hmax : Int32.maxValue.toInt = 2^31-1 := rfl
    exact Int32.toInt_ofIntClamp (by omega) (by omega)
  by_cases h0 : n = 0
  · subst h0
    rfl
  · have hl : n.log2 ≤ 52 := by
      have := (Nat.log2_lt h0).mpr (show n < 2^53 by omega)
      omega
    have h1 : ((n.log2 : ℤ)-52-0).toNat = 0 := by omega
    have h2 : (0-((n.log2 : ℤ)-52-((0 : ℕ) : ℤ))).toNat = 52-n.log2 := by omega
    obtain ⟨hm,hu⟩ := unpack_ofUnsigned h0 (show n < 2^53 by omega)
    rw [toInt, Float.Model.toInt32, hu]
    simp only [UnpackedFloat.toInt32, UnpackedFloat.toInt, UnpackedFloat.roundToInt,
      UnpackedFloat.decreaseExponent, UnpackedFloat.shiftToExponent, h1, h2, Nat.shiftLeft_zero,
      UnpackedFloat.Sign.apply]
    rw [shiftRight_mantissa]
    change (Int32.ofIntClamp ((n <<< (52-n.log2) / 2^(52-n.log2) : ℕ) : ℤ)).toInt = n
    rwa [Nat.shiftLeft_eq, Nat.mul_div_cancel _ (Nat.two_pow_pos _)]

end ScsiCli.WholeDoubles
