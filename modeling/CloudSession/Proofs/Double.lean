import CloudSession.Proofs.Clock

/-! # Doubles

A double is a mantissa and a unit, packed into bits. A mantissa that uses all its bits, or the least
unit, is packed and unpacked without a change, so a rounding that drops no bits is exact. A power of
two is a full mantissa in a unit of its own.
-/

namespace CloudSession.Double

open Float.Model Float.Model.UnpackedFloat Float.Model.Format

/-! ## Fields -/

theorem toNat_unpackMantissa (x : Float) :
    (@unpackMantissa binary64 x.toModel.toBits.toBitVec).toNat = x.toBits.toNat % Nat.pow 2 52 := by
  rw [unpackMantissa, BitVec.toNat_cast, BitVec.extractLsb_toNat]
  rfl

theorem toNat_unpackSign (x : Float) :
    (@unpackSign binary64 x.toModel.toBits.toBitVec).toNat = x.toBits.toNat / Nat.pow 2 63 := by
  have bits : x.toBits.toNat < 2 ^ 64 := x.toBits.toNat_lt
  rw [unpackSign, BitVec.toNat_cast, BitVec.extractLsb_toNat, Nat.shiftRight_eq_div_pow]
  refine Nat.mod_eq_of_lt ?_
  show x.toBits.toNat / 2 ^ 63 < 2
  omega

theorem toNat_packComponents (s : Sign) (exponent : BitVec 11) (mantissa : BitVec 52) :
    (packComponents binary64 s exponent mantissa).toNat =
      (s.toBitVec.toNat * 2 ^ 11 + exponent.toNat) * 2 ^ 52 + mantissa.toNat := by
  rw [packComponents, BitVec.toNat_append, BitVec.toNat_append,
    ← Nat.shiftLeft_add_eq_or_of_lt (BitVec.isLt _),
    ← Nat.shiftLeft_add_eq_or_of_lt (BitVec.isLt _), Nat.shiftLeft_eq, Nat.shiftLeft_eq]

/-! ## Packing -/

/-- The mantissa has all its bits, or the unit is the least one. -/
structure Canonical (m : Nat) (e : Int) : Prop where
  fits : m < 2 ^ 53
  least : -1074 ≤ e
  full : 2 ^ 52 ≤ m ∨ e = -1074

theorem Canonical.of_unpack {b : BitVec binary64.numBits} {s : Sign} {m : Nat} {e : Int}
    {positive : 0 < m} (unpacked : UnpackedFloat.unpack binary64 b = .finite s m e positive) :
    Canonical m e := by
  have bias : (binary64.exponentBias : Int) + binary64.mantissaBitsWithoutImplicit = 1075 := rfl
  have narrow : (@unpackMantissa binary64 b).toNat < 2 ^ 52 := (@unpackMantissa binary64 b).isLt
  rw [UnpackedFloat.unpack] at unpacked
  simp only [bias] at unpacked
  split at unpacked
  · split at unpacked <;> cases unpacked
  · split at unpacked
    · rename_i zero
      have none : (@unpackExponent binary64 b).toNat = 0 := by rw [zero]; rfl
      split at unpacked
      · cases unpacked
      · cases unpacked
        exact ⟨by omega, by omega, .inr (by omega)⟩
    · rename_i nonzero
      have some : (@unpackExponent binary64 b).toNat ≠ 0 :=
        fun zero => nonzero (BitVec.eq_of_toNat_eq zero)
      cases unpacked
      rw [BitVec.toNat_append, ← Nat.shiftLeft_add_eq_or_of_lt narrow, Nat.shiftLeft_eq]
      have one : (1#1).toNat = 1 := rfl
      refine ⟨?_, by omega, .inl ?_⟩ <;> rw [one] <;> omega

/-- What is packed from its fields is unpacked from them. -/
theorem unpack_packComponents (s : Sign) (exponent : BitVec 11) (mantissa : BitVec 52) :
    UnpackedFloat.unpack binary64 (packComponents binary64 s exponent mantissa) =
      if exponent = -1#11 then (if mantissa = 0#52 then .infinity s else .notANumber)
      else if exponent = 0#11 then
        if positive : mantissa = 0#52 then .zero s
        else .finite s mantissa.toNat (-1074) (by simpa [BitVec.toNat_pos, BitVec.pos_iff_ne_zero])
      else .finite s (2 ^ 52 + mantissa.toNat) (exponent.toNat - 1075) (by omega) := by
  have bias : (binary64.exponentBias : Int) + binary64.mantissaBitsWithoutImplicit = 1075 := rfl
  have sign :
      Sign.ofBitVec (@unpackSign binary64 (packComponents binary64 s exponent mantissa)) = s := by
    simp only [unpackSign, packComponents, BitVec.extractLsb]
    rw [BitVec.extractLsb'_append_eq_of_le (by omega),
      BitVec.extractLsb'_append_eq_of_le (by omega)]
    cases s <;> rfl
  have joined : (1#1 ++ mantissa).toNat = 2 ^ 52 + mantissa.toNat := by
    rw [BitVec.toNat_append, ← Nat.shiftLeft_add_eq_or_of_lt mantissa.isLt]
    rfl
  rw [UnpackedFloat.unpack]
  simp only [unpackExponent_packComponents, unpackMantissa_packComponents, bias, sign]
  split
  · rfl
  · split
    · rename_i zero
      split
      · rfl
      · congr 1
        rw [zero]
        rfl
    · congr 1

/-- What is packed is as large as it was, or too large for a double. -/
theorem Canonical.unpack_pack {s : Sign} {m : Nat} {e : Int} (canonical : Canonical m e)
    (positive : 0 < m) :
    UnpackedFloat.unpack binary64 (UnpackedFloat.pack binary64 (.finite s m e positive)) =
      if e ≤ 971 then .finite s m e positive else .infinity s := by
  obtain ⟨fits, least, full⟩ := canonical
  have bias : e + (binary64.exponentBias : Int) + ((52 : Nat) : Int) = e + 1075 := by
    have own : (binary64.exponentBias : Int) = 1023 := rfl
    omega
  have field : (BitVec.ofNat 52 m).toNat = m % 2 ^ 52 := BitVec.toNat_ofNat m 52
  simp only [UnpackedFloat.pack]
  rw [bias]
  by_cases top : e ≤ 971
  · rw [if_neg (by omega), if_pos top]
    by_cases normal : 2 ^ 52 ≤ m
    · have bits : m.log2 = 52 := (Nat.log2_eq_iff (by omega)).mpr ⟨normal, fits⟩
      have own : (BitVec.ofNat 11 (e + 1075).toNat).toNat = (e + 1075).toNat := by
        rw [BitVec.toNat_ofNat, Nat.mod_eq_of_lt (by omega)]
      rw [if_pos (by rw [bits]; rfl), unpack_packComponents, if_neg, if_neg]
      · congr 1 <;> omega
      · intro zero
        have none := own.symm.trans (congrArg BitVec.toNat zero)
        simp at none
        omega
      · intro ones
        have most := own.symm.trans (congrArg BitVec.toNat ones)
        simp at most
        omega
    · have few : m.log2 < 52 := (Nat.log2_lt (by omega)).mpr (by omega)
      have all : m.log2 + 1 ≠ binary64.mantissaBits := by
        have width : binary64.mantissaBits = 53 := rfl
        omega
      rw [if_neg all, unpack_packComponents, if_neg (by decide), if_pos rfl, dif_neg]
      · congr 1 <;> omega
      · intro zero
        have none := field.symm.trans (congrArg BitVec.toNat zero)
        simp at none
        omega
  · rw [if_pos (by omega), if_neg top, packedInfinity, unpack_packComponents, if_pos rfl]
    exact if_pos rfl

theorem unpack_pack_infinity (s : Sign) :
    UnpackedFloat.unpack binary64 (UnpackedFloat.pack binary64 (.infinity s)) = .infinity s := by
  rw [UnpackedFloat.pack, packedInfinity, unpack_packComponents, if_pos rfl]
  exact if_pos rfl

theorem unpack_pack_zero (s : Sign) :
    UnpackedFloat.unpack binary64 (UnpackedFloat.pack binary64 (.zero s)) = .zero s := by
  rw [UnpackedFloat.pack, packedZero, unpack_packComponents, if_neg (by decide)]
  rfl

/-! ## Rounding -/

theorem log2_mul_two_pow {m : Nat} (positive : 0 < m) (k : Nat) :
    (m * 2 ^ k).log2 = m.log2 + k := by
  have low := Nat.log2_self_le (Nat.pos_iff_ne_zero.mp positive)
  have high : m < 2 ^ (m.log2 + 1) := Nat.lt_log2_self
  rw [Nat.log2_eq_iff (by positivity), pow_add, Nat.add_right_comm, pow_add]
  exact ⟨Nat.mul_le_mul_right _ low, Nat.mul_lt_mul_of_pos_right high (by positivity)⟩

theorem mul_two_pow_lt {m k : Nat} (bits : m.log2 + k < 53) : m * 2 ^ k < 2 ^ 53 := by
  calc m * 2 ^ k
    _ < 2 ^ (m.log2 + 1) * 2 ^ k := Nat.mul_lt_mul_of_pos_right Nat.lt_log2_self (by positivity)
    _ = 2 ^ (m.log2 + 1 + k) := by rw [← pow_add]
    _ ≤ 2 ^ 53 := Nat.pow_le_pow_right (by norm_num) (by omega)

theorem le_mul_two_pow {m k : Nat} (positive : 0 < m) (bits : m.log2 + k = 52) :
    2 ^ 52 ≤ m * 2 ^ k := by
  rw [← bits, pow_add]
  exact Nat.mul_le_mul_right _ (Nat.log2_self_le (by omega))

/-- Bits that are clear are shifted out without a trace. -/
theorem mul_two_pow_shift (n k : Nat) :
    (⟨n * 2 ^ k, false, false⟩ : ExtendedMantissa) >>> k = ⟨n, false, false⟩ := by
  show k.repeat ExtendedMantissa.shiftRightOne _ = _
  induction k generalizing n with
  | zero => simp [Nat.repeat]
  | succ k ih =>
    rw [pow_succ, Nat.mul_comm (2 ^ k) 2, ← Nat.mul_assoc, Nat.repeat, ih (n * 2)]
    simp [ExtendedMantissa.shiftRightOne]

/-- A double in a larger unit is rounded to what it is worth. -/
theorem Canonical.round {m : Nat} {e k : Int} (canonical : Canonical m e) (positive : 0 < m)
    (natural : 0 ≤ k) (s : Sign) :
    ∃ m' e', ∃ positive' : 0 < m',
      roundWithAccuracy binary64 s (m * 2 ^ 52) (e + (k - 52)) .exact = .finite s m' e' positive' ∧
      Canonical m' e' ∧ (m' : ℝ) * 2 ^ e' = m * 2 ^ (e + k) := by
  obtain ⟨fits, least, full⟩ := canonical
  have bits : m.log2 < 53 := (Nat.log2_lt (by omega)).mpr fits
  obtain ⟨drop, shifted⟩ : ∃ drop : Nat, drop = (binary64.targetExponent
    (totalExponent (m * 2 ^ 52) (e + (k - 52))) - (e + (k - 52))).toNat := ⟨_, rfl⟩
  have dropped := shifted
  rw [Clock.targetExponent_eq, totalExponent, log2_mul_two_pow positive] at dropped
  push_cast at dropped
  -- The power of two brings 52 clear bits, and no more bits than these are dropped.
  have few : drop ≤ 52 := by omega
  have wide : m * 2 ^ 52 = m * 2 ^ (52 - drop) * 2 ^ drop := by
    rw [Nat.mul_assoc, ← pow_add]
    congr 2
    omega
  have first : shiftToTargetExponent binary64 (m * 2 ^ 52) (e + (k - 52)) .exact =
      (⟨m * 2 ^ (52 - drop), false, false⟩, e + (k - 52) + drop) := by
    simp only [shiftToTargetExponent, shiftToExponent, ← shifted]
    refine Prod.ext ?_ rfl
    rw [wide]
    exact mul_two_pow_shift _ drop
  have narrow : m * 2 ^ (52 - drop) < 2 ^ 53 := mul_two_pow_lt (by omega)
  have some : 0 < m * 2 ^ (52 - drop) := by positivity
  have lowest : -1074 ≤ e + (k - 52) + drop := by omega
  have exact : (⟨m * 2 ^ (52 - drop), false, false⟩ : ExtendedMantissa).roundedMantissa =
    m * 2 ^ (52 - drop) := rfl
  refine ⟨_, _, some, ?_, ⟨narrow, lowest, ?_⟩, ?_⟩
  · simp only [roundWithAccuracy, first, exact, Clock.shift_of_fits narrow lowest]
    exact dif_neg (by omega)
  · by_cases normal : drop = m.log2
    · exact .inl (le_mul_two_pow positive (by omega))
    · exact .inr (by omega)
  · rw [show e + (k - 52) + (drop : Int) = e + k - ((52 - drop : Nat) : Int) by omega,
      zpow_sub₀ two_ne_zero, zpow_natCast, Nat.cast_mul, Nat.cast_pow, Nat.cast_ofNat]
    field_simp

/-- A whole number of at most 53 bits is a double. -/
theorem round_of_small {m : Nat} (positive : 0 < m) (small : m < 2 ^ 53) (s : Sign) :
    ∃ m' e', ∃ positive' : 0 < m', UnpackedFloat.round binary64 s m 0 = .finite s m' e' positive' ∧
      Canonical m' e' ∧ e' ≤ 971 ∧ (m' : ℝ) * 2 ^ e' = m := by
  have bits : m.log2 < 53 := (Nat.log2_lt (by omega)).mpr small
  have target : binary64.targetExponent (totalExponent m 0) = (m.log2 : Int) - 52 := by
    rw [Clock.targetExponent_eq, totalExponent]
    omega
  have finer : (0 - ((m.log2 : Int) - 52)).toNat = 52 - m.log2 := by omega
  have narrow : m * 2 ^ (52 - m.log2) < 2 ^ 53 := mul_two_pow_lt (by omega)
  have normal : 2 ^ 52 ≤ m * 2 ^ (52 - m.log2) := le_mul_two_pow positive (by omega)
  have lowest : -1074 ≤ (0 : Int) - ((52 - m.log2 : Nat) : Int) := by omega
  have exact : (⟨m * 2 ^ (52 - m.log2), false, false⟩ : ExtendedMantissa).roundedMantissa =
    m * 2 ^ (52 - m.log2) := rfl
  refine ⟨m * 2 ^ (52 - m.log2), 0 - ((52 - m.log2 : Nat) : Int), by positivity, ?_,
    ⟨narrow, lowest, .inl normal⟩, by omega, ?_⟩
  · rw [UnpackedFloat.round]
    simp only [target, decreaseExponent, finer, Nat.shiftLeft_eq, roundWithAccuracy,
      Clock.shift_of_fits narrow lowest, exact]
    exact dif_neg (by positivity)
  · rw [zero_sub, zpow_neg, zpow_natCast, Nat.cast_mul, Nat.cast_pow, Nat.cast_ofNat]
    field_simp

/-! ## Powers of two -/

theorem powerOfTwo_bits {n : Nat} (below : n < 2047) : (n * 2 ^ 52).toUInt64.toBitVec =
    packComponents binary64 .positive (BitVec.ofNat 11 n) (BitVec.ofNat 52 (2 ^ 52)) := by
  have own : (n * 2 ^ 52).toUInt64.toBitVec.toNat = n * 2 ^ 52 % 2 ^ 64 := UInt64.toNat_ofNat'
  have sign : Sign.positive.toBitVec.toNat = 0 := rfl
  apply BitVec.eq_of_toNat_eq
  rw [own, toNat_packComponents, sign, BitVec.toNat_ofNat, BitVec.toNat_ofNat]
  omega

/-- A float is read off its bits, and the bits written of it. -/
theorem unpack_ofBits (bits : UInt64) : (Float.ofBits bits).toModel.unpack =
    unpack binary64 (pack binary64 (unpack binary64 bits.toBitVec)) := rfl

theorem pack_powerOfTwo {k : Int} (natural : 0 ≤ k) (below : k < 1024) :
    pack binary64 (.finite .positive (2 ^ 52) (k - 52) (by positivity)) =
      packComponents binary64 .positive (BitVec.ofNat 11 (k + 1023).toNat)
        (BitVec.ofNat 52 (2 ^ 52)) := by
  have bias : k - 52 + (binary64.exponentBias : Int) + ((52 : Nat) : Int) = k + 1023 := by
    have own : (binary64.exponentBias : Int) = 1023 := rfl
    omega
  have one : (2 ^ 52 : Nat).log2 + 1 = binary64.mantissaBits := by
    rw [Nat.log2_two_pow]
    rfl
  simp only [UnpackedFloat.pack]
  rw [bias, if_neg (by omega), if_pos one]

theorem unpack_powerOfTwo {k : Int} (natural : 0 ≤ k) (below : k < 1024) :
    (Number.powerOfTwo k).toModel.unpack = .finite .positive (2 ^ 52) (k - 52) (by positivity) := by
  have canonical : Canonical (2 ^ 52) (k - 52) := ⟨by norm_num, by omega, .inl le_rfl⟩
  have unpacked := canonical.unpack_pack (s := .positive) (by positivity)
  rw [if_pos (by omega)] at unpacked
  have power : Nat.pow 2 52 = 2 ^ 52 := rfl
  rw [Number.powerOfTwo, if_neg (by omega), if_neg (by omega), unpack_ofBits, power,
    powerOfTwo_bits (by omega), ← pack_powerOfTwo natural below, unpacked, unpacked]

end CloudSession.Double
