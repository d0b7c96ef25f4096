import CloudSession.Number
import Mathlib

/-! # How far a clock gets

A clock reads a double, and its moves are sums that are rounded to the nearest double. A move that
is small against the largest reading allowed does not lead beyond it, however often the clock is
moved: close to the bound such a move is rounded away. So readings that started out below a bound
stay below it, and the difference of any two is finite.
-/

namespace CloudSession.Clock

open Float.Model Float.Model.UnpackedFloat Float.Model.Format

/-! ## Mantissas -/

theorem mantissa_shift (m : ExtendedMantissa) (n : Nat) :
    (m >>> n).mantissa = m.mantissa / 2 ^ n := by
  show (n.repeat ExtendedMantissa.shiftRightOne m).mantissa = _
  induction n with
  | zero => simp [Nat.repeat]
  | succ n ih =>
    rw [Nat.repeat, ExtendedMantissa.shiftRightOne, ih, Nat.div_div_eq_div_mul, pow_succ]

/-- The round bit is the last one that was shifted out. -/
theorem roundBit_shift (m : ExtendedMantissa) (n : Nat) :
    (m >>> (n + 1)).roundBit = (m.mantissa / 2 ^ n % 2 != 0) := by
  rw [← mantissa_shift m n]
  rfl

theorem roundedMantissa_le (m : ExtendedMantissa) : m.roundedMantissa ≤ m.mantissa + 1 := by
  obtain ⟨mantissa, round, sticky⟩ := m
  have tie : mantissa + mantissa % 2 ≤ mantissa + 1 := by omega
  cases round <;> cases sticky
  · exact Nat.le_succ mantissa
  · exact Nat.le_succ mantissa
  · exact tie
  · exact le_rfl

theorem roundedMantissa_of_clear {m : ExtendedMantissa} (clear : m.roundBit = false) :
    m.roundedMantissa = m.mantissa := by
  obtain ⟨mantissa, round, sticky⟩ := m
  obtain rfl : round = false := clear
  cases sticky <;> rfl

theorem targetExponent_eq (total : Int) :
    binary64.targetExponent total = max (total - 53) (-1074) := rfl

section

variable {sign : Sign} {m : Nat} {e high : Int}

/-- A mantissa of at most 53 bits stays as it is. -/
theorem shift_of_fits (fits : m < 2 ^ 53) (low : -1074 ≤ e) :
    shiftToTargetExponent binary64 m e .exact = (⟨m, false, false⟩, e) := by
  have bits : m.log2 < 53 := by
    by_cases zero : m = 0
    · simp [zero]
    · exact (Nat.log2_lt zero).mpr fits
  have still : (binary64.targetExponent (totalExponent m e) - e).toNat = 0 := by
    rw [targetExponent_eq, totalExponent]
    omega
  simp only [shiftToTargetExponent, shiftToExponent, still]
  exact Prod.ext rfl (Int.add_zero e)

/-- What is left of a mantissa in its target unit is at most 53 bits wide. -/
theorem div_lt (coarser : e ≤ binary64.targetExponent (totalExponent m e)) :
    m / 2 ^ (binary64.targetExponent (totalExponent m e) - e).toNat < 2 ^ 53 := by
  rw [Nat.div_lt_iff_lt_mul (by positivity), ← pow_add]
  refine Nat.lt_log2_self.trans_le (Nat.pow_le_pow_right (by norm_num) ?_)
  rw [targetExponent_eq, totalExponent] at *
  omega

theorem target_le (range : e ≤ high) (low : -1074 ≤ high)
    (small : 2 * m < (2 ^ 54 - 1) * 2 ^ (high - e).toNat) :
    binary64.targetExponent (totalExponent m e) ≤ high := by
  rw [targetExponent_eq, totalExponent]
  by_cases zero : m = 0
  · simp only [zero, Nat.log2_zero]
    omega
  · have bits : 2 ^ (m.log2 + 1) < 2 ^ (54 + (high - e).toNat) := by
      calc 2 ^ (m.log2 + 1)
        _ = 2 * 2 ^ m.log2 := by ring
        _ ≤ 2 * m := Nat.mul_le_mul_left 2 (Nat.log2_self_le zero)
        _ < (2 ^ 54 - 1) * 2 ^ (high - e).toNat := small
        _ ≤ 2 ^ 54 * 2 ^ (high - e).toNat := Nat.mul_le_mul_right _ (by norm_num)
        _ = 2 ^ (54 + (high - e).toNat) := by rw [pow_add]
    have fewer := (Nat.pow_lt_pow_iff_right (by norm_num)).mp bits
    omega

/-- A mantissa that is rounded up to more than 53 bits, in the widest unit that there may be, was
too large by half a unit. -/
theorem carry_of_full {fine : Nat} (carried : ((⟨m, false, false⟩ : ExtendedMantissa) >>>
      fine).roundedMantissa = 2 ^ 53) (width : m / 2 ^ fine < 2 ^ 53) :
    (2 ^ 54 - 1) * 2 ^ fine ≤ 2 * m := by
  have kept : ((⟨m, false, false⟩ : ExtendedMantissa) >>> fine).mantissa = m / 2 ^ fine :=
    mantissa_shift _ fine
  have most := roundedMantissa_le ((⟨m, false, false⟩ : ExtendedMantissa) >>> fine)
  cases fine with
  | zero =>
    have exact : ((⟨m, false, false⟩ : ExtendedMantissa) >>> 0).roundedMantissa = m := rfl
    omega
  | succ fine =>
    have up : ((⟨m, false, false⟩ : ExtendedMantissa) >>> (fine + 1)).roundBit = true := by
      by_contra down
      have still := roundedMantissa_of_clear (Bool.eq_false_iff.mpr down)
      omega
    have odd : m / 2 ^ fine % 2 ≠ 0 := by
      rw [roundBit_shift] at up
      simpa using up
    have full : m / 2 ^ fine / 2 = 2 ^ 53 - 1 := by
      rw [pow_succ, ← Nat.div_div_eq_div_mul] at kept width
      omega
    calc (2 ^ 54 - 1) * 2 ^ (fine + 1)
      _ = 2 * ((2 ^ 54 - 1) * 2 ^ fine) := by ring
      _ ≤ 2 * (m / 2 ^ fine * 2 ^ fine) :=
        Nat.mul_le_mul_left 2 (Nat.mul_le_mul_right _ (by omega))
      _ ≤ 2 * m := Nat.mul_le_mul_left 2 (Nat.div_mul_le_self m (2 ^ fine))

end

/-! ## Bounds -/

/-- A float of at most 53 bits in units of at most `2 ^ high`. -/
def Bounded (high : Int) : UnpackedFloat → Prop
  | .zero _ => True
  | .finite _ m e _ => m < 2 ^ 53 ∧ -1074 ≤ e ∧ e ≤ high
  | .infinity _ | .notANumber => False

instance (high : Int) (x : UnpackedFloat) : Decidable (Bounded high x) :=
  match x with
  | .zero _ => .isTrue trivial
  | .finite _ m e _ => inferInstanceAs (Decidable (m < 2 ^ 53 ∧ -1074 ≤ e ∧ e ≤ high))
  | .infinity _ | .notANumber => .isFalse id

variable {x y : UnpackedFloat} {high higher : Int}

theorem Bounded.mono (bounded : Bounded high x) (more : high ≤ higher) : Bounded higher x := by
  cases x with
  | zero => trivial
  | infinity | notANumber => exact bounded.elim
  | finite s m e positive => exact ⟨bounded.1, bounded.2.1, bounded.2.2.trans more⟩

section

variable {sign : Sign} {m : Nat} {e : Int}

/-- What is below the bound by more than half a unit is rounded to something below it. -/
theorem bounded_round (range : e ≤ high) (low : -1074 ≤ high)
    (small : 2 * m < (2 ^ 54 - 1) * 2 ^ (high - e).toNat) :
    Bounded high (UnpackedFloat.round binary64 sign m e) := by
  have limit := target_le range low small
  have lowest : -1074 ≤ binary64.targetExponent (totalExponent m e) := by
    rw [targetExponent_eq]
    omega
  have made {m' : Nat} {e' : Int} (fits : m' < 2 ^ 53) (least : -1074 ≤ e') (most : e' ≤ high) :
      Bounded high
        (if h : m' = 0 then .zero sign else .finite sign m' e' (Nat.pos_of_ne_zero h)) := by
    split
    · trivial
    · exact ⟨fits, least, most⟩
  have width := div_lt (m := m) (e := e)
  generalize target : binary64.targetExponent (totalExponent m e) = t at limit lowest width
  rw [UnpackedFloat.round]
  simp only [target]
  rcases le_total t e with finer | coarser
  · -- Nothing is dropped where the unit only gets finer.
    have fits : m <<< (e - t).toNat < 2 ^ 53 := by
      rw [targetExponent_eq, totalExponent] at target
      calc m <<< (e - t).toNat
        _ = m * 2 ^ (e - t).toNat := Nat.shiftLeft_eq m _
        _ < 2 ^ (m.log2 + 1) * 2 ^ (e - t).toNat :=
          Nat.mul_lt_mul_of_pos_right Nat.lt_log2_self (by positivity)
        _ = 2 ^ (m.log2 + 1 + (e - t).toNat) := by rw [← pow_add]
        _ ≤ 2 ^ 53 := Nat.pow_le_pow_right (by norm_num) (by omega)
    have unit : e - ((e - t).toNat : Int) = t := by omega
    have exact : (⟨m <<< (e - t).toNat, false, false⟩ : ExtendedMantissa).roundedMantissa =
      m <<< (e - t).toNat := rfl
    simp only [decreaseExponent, unit, roundWithAccuracy, shift_of_fits fits lowest, exact]
    exact made fits lowest limit
  · let rest : ExtendedMantissa := (⟨m, false, false⟩ : ExtendedMantissa) >>> (t - e).toNat
    have unit : e + ((t - e).toNat : Int) = t := by omega
    have first : shiftToTargetExponent binary64 m e .exact = (rest, t) := by
      simp only [shiftToTargetExponent, shiftToExponent, target, unit]
      rfl
    have nothing : (e - t).toNat = 0 := by omega
    simp only [decreaseExponent, nothing, Nat.shiftLeft_zero, Nat.cast_zero, sub_zero,
      roundWithAccuracy, first]
    by_cases fits : rest.roundedMantissa < 2 ^ 53
    · simp only [shift_of_fits fits lowest]
      exact made fits lowest limit
    · have kept : rest.mantissa = m / 2 ^ (t - e).toNat := mantissa_shift _ _
      have carried : rest.roundedMantissa = 2 ^ 53 := by
        have most := roundedMantissa_le rest
        have narrow := width coarser
        omega
      have again : shiftToTargetExponent binary64 (2 ^ 53) t .exact =
          (⟨2 ^ 52, false, false⟩, t + 1) := by
        have next : binary64.targetExponent (totalExponent (2 ^ 53) t) = t + 1 := by
          rw [targetExponent_eq, totalExponent, Nat.log2_two_pow]
          omega
        have one : (t + 1 - t).toNat = 1 := by omega
        simp only [shiftToTargetExponent, shiftToExponent, next, one]
        rfl
      have below : t ≠ high := by
        rintro rfl
        have large := carry_of_full carried (width coarser)
        omega
      simp only [carried, again]
      exact made (by norm_num) (by omega) (by omega)

theorem bounded_normalize {m : Int} {zero : Sign} (range : e ≤ high) (low : -1074 ≤ high)
    (small : 2 * m.natAbs < (2 ^ 54 - 1) * 2 ^ (high - e).toNat) :
    Bounded high (UnpackedFloat.normalize binary64 m e zero) := by
  rw [UnpackedFloat.normalize]
  cases order : compare m 0 with
  | eq => trivial
  | lt =>
    have negative := Int.compare_eq_lt.mp order
    exact bounded_round range low (by rwa [show (-m).toNat = m.natAbs by omega])
  | gt =>
    have positive := Int.compare_eq_gt.mp order
    exact bounded_round range low (by rwa [show m.toNat = m.natAbs by omega])

theorem natAbs_apply (s : Sign) (n : Nat) : (s.apply n).natAbs = n := by
  cases s <;> simp [Sign.apply]

/-- A mantissa in finer units. -/
theorem shifted_le (fine : Int) (fits : m < 2 ^ 53) (range : e ≤ high) :
    m <<< (e - fine).toNat ≤ (2 ^ 53 - 1) * 2 ^ (high - fine).toNat := by
  calc m <<< (e - fine).toNat
    _ = m * 2 ^ (e - fine).toNat := Nat.shiftLeft_eq m _
    _ ≤ (2 ^ 53 - 1) * 2 ^ (e - fine).toNat := Nat.mul_le_mul_right _ (by omega)
    _ ≤ (2 ^ 53 - 1) * 2 ^ (high - fine).toNat :=
      Nat.mul_le_mul_left _ (Nat.pow_le_pow_right (by norm_num) (by omega))

end

/-- A summand that is small against the bound does not lead beyond it. -/
theorem Bounded.add (low : -1074 ≤ high) (first : Bounded high x) (second : Bounded (high - 54) y) :
    Bounded high (UnpackedFloat.add binary64 x y) := by
  cases x with
  | infinity | notANumber => exact first.elim
  | zero s =>
    cases y with
    | infinity | notANumber => exact second.elim
    | zero s' =>
      simp only [UnpackedFloat.add]
      split <;> trivial
    | finite s' m' e' positive' => exact second.mono (by omega)
  | finite s m e positive =>
    cases y with
    | infinity | notANumber => exact second.elim
    | zero s' => exact first
    | finite s' m' e' positive' =>
      simp only [UnpackedFloat.add, decreaseExponent]
      have range := (min_le_left e e').trans first.2.2
      have far := (min_le_right e e').trans second.2.2
      generalize min e e' = fine at range far ⊢
      have own := shifted_le fine first.1 first.2.2
      have other := shifted_le fine second.1 second.2.2
      have sum := Int.natAbs_add_le (s.apply ↑(m <<< (e - fine).toNat))
        (s'.apply ↑(m' <<< (e' - fine).toNat))
      rw [natAbs_apply, natAbs_apply] at sum
      have units : 2 ^ (high - fine).toNat = 2 ^ (high - 54 - fine).toNat * 2 ^ 54 := by
        rw [← pow_add]
        congr 1
        omega
      have unit : 0 < 2 ^ (high - 54 - fine).toNat := by positivity
      refine bounded_normalize range low ?_
      rw [units] at own ⊢
      omega

/-- Two floats below a bound differ by a finite number. -/
theorem Bounded.sub (low : -1074 ≤ high) (first : Bounded high x) (second : Bounded high y) :
    Bounded (high + 1) (UnpackedFloat.sub binary64 x y) := by
  cases x with
  | infinity | notANumber => exact first.elim
  | zero s =>
    cases y with
    | infinity | notANumber => exact second.elim
    | zero s' =>
      simp only [UnpackedFloat.sub]
      split <;> trivial
    | finite s' m' e' positive' => exact second.mono (by omega)
  | finite s m e positive =>
    cases y with
    | infinity | notANumber => exact second.elim
    | zero s' => exact first.mono (by omega)
    | finite s' m' e' positive' =>
      simp only [UnpackedFloat.sub, decreaseExponent]
      have range := (min_le_left e e').trans first.2.2
      generalize min e e' = fine at range ⊢
      have own := shifted_le fine first.1 first.2.2
      have other := shifted_le fine second.1 second.2.2
      have difference := Int.natAbs_sub_le (s.apply ↑(m <<< (e - fine).toNat))
        (s'.apply ↑(m' <<< (e' - fine).toNat))
      rw [natAbs_apply, natAbs_apply] at difference
      have units : 2 ^ (high + 1 - fine).toNat = 2 ^ (high - fine).toNat * 2 := by
        rw [← pow_succ]
        congr 1
        omega
      have unit : 0 < 2 ^ (high - fine).toNat := by positivity
      refine bounded_normalize (by omega) (by omega) ?_
      rw [units]
      omega

/-! ## Bits -/

theorem bounded_unpack {b : BitVec binary64.numBits} (finite : unpackExponent b ≠ (-1#_))
    (low : -1074 ≤ high) (range : ((unpackExponent b).toNat : Int) - 1075 ≤ high) :
    Bounded high (UnpackedFloat.unpack binary64 b) := by
  have bias : (binary64.exponentBias : Int) + binary64.mantissaBitsWithoutImplicit = 1075 := rfl
  rw [UnpackedFloat.unpack]
  simp only [bias, if_neg finite]
  split
  · rename_i least
    split
    · trivial
    · have width : (unpackMantissa b).toNat < 2 ^ 52 := (unpackMantissa b).isLt
      have exponent : ((unpackExponent b).toNat : Int) = 0 := by
        rw [least]
        rfl
      exact ⟨by omega, by omega, by omega⟩
  · rename_i more
    have positive : (unpackExponent b).toNat ≠ 0 := fun zero => more (BitVec.eq_of_toNat_eq zero)
    exact ⟨(1#1 ++ unpackMantissa b).isLt, by omega, range⟩

/-- A float below a bound is not taken for an infinite one when it is packed. -/
theorem Bounded.unpack_pack (bounded : Bounded high x) (low : -1074 ≤ high) (top : high ≤ 971) :
    Bounded high (UnpackedFloat.unpack binary64 (UnpackedFloat.pack binary64 x)) := by
  cases x with
  | infinity | notANumber => exact bounded.elim
  | zero s =>
    refine bounded_unpack ?_ low ?_ <;>
      rw [UnpackedFloat.pack, packedZero, unpackExponent_packComponents]
    · decide
    · have none : ((0 : BitVec 11).toNat : Int) = 0 := rfl
      omega
  | finite s m e positive =>
    obtain ⟨-, least, most⟩ := bounded
    have bias : e + (binary64.exponentBias : Int) + ((52 : Nat) : Int) = e + 1075 := by
      have own : (binary64.exponentBias : Int) = 1023 := rfl
      omega
    have field : (BitVec.ofNat 11 (e + 1075).toNat).toNat = (e + 1075).toNat := by
      rw [BitVec.toNat_ofNat, Nat.mod_eq_of_lt (by omega)]
    simp only [UnpackedFloat.pack]
    rw [bias, if_neg (by omega)]
    split
    · refine bounded_unpack ?_ low ?_ <;> rw [unpackExponent_packComponents]
      · intro full
        have ones : (e + 1075).toNat = 2047 := field.symm.trans (congrArg BitVec.toNat full)
        omega
      · rw [field]
        omega
    · refine bounded_unpack ?_ low ?_ <;> rw [unpackExponent_packComponents]
      · decide
      · have none : ((0#11).toNat : Int) = 0 := rfl
        omega

/-! ## Readings -/

/-- A double of size below `2 ^ (high + 53)`. -/
def Within (high : Int) (x : Float) : Prop := Bounded high x.toModel.unpack

instance (high : Int) (x : Float) : Decidable (Within high x) :=
  inferInstanceAs (Decidable (Bounded high x.toModel.unpack))

variable {now landed move : Float}

/-- A small move does not lead beyond the bound. -/
theorem Within.add (within : Within high now) (small : Within (high - 54) move)
    (low : -1074 ≤ high) (top : high ≤ 971) : Within high (now + move) :=
  (Bounded.add low within small).unpack_pack low top

theorem Within.sub (first : Within high now) (second : Within high landed) (low : -1074 ≤ high)
    (top : high ≤ 970) : Within (high + 1) (now - landed) :=
  (Bounded.sub low first second).unpack_pack (by omega) (by omega)

/-- Two readings of a clock whose difference is a finite number of seconds. -/
def Apart (now landed : Float) : Prop :=
  ∃ negative m e, Scaled.ofFloat (now - landed) = .finite negative m e

/-- The exponent stands in the bits from 52 on. -/
theorem toNat_unpackExponent (x : Float) :
    (@unpackExponent binary64 x.toModel.toBits.toBitVec).toNat =
      x.toBits.toNat / Nat.pow 2 52 % Nat.pow 2 11 := by
  rw [unpackExponent, BitVec.toNat_cast, BitVec.extractLsb_toNat, Nat.shiftRight_eq_div_pow]
  rfl

theorem Within.exists_finite {x : Float} (within : Within high x) :
    ∃ negative m e, Scaled.ofFloat x = .finite negative m e := by
  have field : x.toBits.toNat / Nat.pow 2 52 % Nat.pow 2 11 ≠ 2047 := by
    intro full
    have ones : @unpackExponent binary64 x.toModel.toBits.toBitVec = (-1#_) :=
      BitVec.eq_of_toNat_eq ((toNat_unpackExponent x).trans full)
    rw [Within, Float.Model.unpack, UnpackedFloat.unpack] at within
    simp only [ones, if_true] at within
    split at within <;> exact within
  rw [Scaled.ofFloat]
  simp only [field, if_false]
  split <;> exact ⟨_, _, _, rfl⟩

/-- Two readings below a bound are finitely far apart. -/
theorem Within.apart (first : Within high now) (second : Within high landed) (low : -1074 ≤ high)
    (top : high ≤ 970) : Apart now landed :=
  (first.sub second low top).exists_finite

/-- What a clock can read: seconds of a size below `2 ^ 34`. Where nanoseconds are counted in 63
bits there is no reading beyond these. -/
def Readable (t : Float) : Prop := Within (-19) t

instance (t : Float) : Decidable (Readable t) := inferInstanceAs (Decidable (Within (-19) t))

example : Readable 9223372036.854776 ∧ Readable (-9223372036.854776) := by decide +kernel

theorem Readable.apart (first : Readable now) (second : Readable landed) : Apart now landed :=
  Within.apart first second (by decide) (by decide)

end CloudSession.Clock
