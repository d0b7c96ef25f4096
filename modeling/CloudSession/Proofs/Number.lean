import CloudSession.Proofs.Double

/-! # What numbers are worth

A whole number is worth itself, and a double what its mantissa counts in its unit, so numbers of
either kind are in the order of what they are worth. A power of two times a number is worth as many
times more, unless it is beyond the doubles, and a number that is not beyond the doubles has one
next to it.
-/

namespace CloudSession

open Float.Model Float.Model.UnpackedFloat Float.Model.Format Double

namespace Scaled

/-- What an exact value is worth, unless it is undefined. -/
noncomputable def worth? : Scaled → Option EReal
  | .finite negative m e => some (((if negative then -1 else 1) * m * 2 ^ e : ℝ) : EReal)
  | .infinite false => some ⊤
  | .infinite true => some ⊥
  | .undefined => none

theorem units_mul {negative : Bool} {m : Nat} {e low : Int} (finer : low ≤ e) :
    (units negative m e low : ℝ) * 2 ^ low = (if negative then -1 else 1) * m * 2 ^ e := by
  have scale : (2 : ℝ) ^ e = 2 ^ (e - low).toNat * 2 ^ low := by
    rw [← zpow_natCast, ← zpow_add₀ two_ne_zero]
    congr 1
    omega
  cases negative
  · simp [units, scale]
    ring
  · simp [units, scale]
    ring

theorem lt_iff {a b : Scaled} {x y : EReal} (left : a.worth? = some x) (right : b.worth? = some y) :
    a.lt b = true ↔ x < y := by
  cases a with
  | undefined => cases left
  | infinite negative =>
    cases negative <;> cases left <;> cases b with
    | undefined => cases right
    | infinite negative => cases negative <;> cases right <;> simp [lt]
    | finite negative m e => cases right; simp [lt]
  | finite negative m e =>
    cases left
    cases b with
    | undefined => cases right
    | infinite negative => cases negative <;> cases right <;> simp [lt]
    | finite negative' m' e' =>
      cases right
      have unit : (0 : ℝ) < 2 ^ min e e' := by positivity
      rw [EReal.coe_lt_coe_iff, ← units_mul (min_le_left e e'), ← units_mul (min_le_right e e'),
        mul_lt_mul_iff_left₀ unit, Int.cast_lt]
      simp [lt]

theorem eq_iff {a b : Scaled} {x y : EReal} (left : a.worth? = some x) (right : b.worth? = some y) :
    a.eq b = true ↔ x = y := by
  cases a with
  | undefined => cases left
  | infinite negative =>
    cases negative <;> cases left <;> cases b with
    | undefined => cases right
    | infinite negative => cases negative <;> cases right <;> simp [eq]
    | finite negative m e => cases right; simp [eq]
  | finite negative m e =>
    cases left
    cases b with
    | undefined => cases right
    | infinite negative => cases negative <;> cases right <;> simp [eq]
    | finite negative' m' e' =>
      cases right
      have unit : (2 : ℝ) ^ min e e' ≠ 0 := by positivity
      rw [EReal.coe_eq_coe_iff, ← units_mul (min_le_left e e'), ← units_mul (min_le_right e e'),
        mul_left_inj' unit, Int.cast_inj]
      simp [eq]

/-- The value that is packed into a double. -/
def ofUnpacked : UnpackedFloat → Scaled
  | .notANumber => .undefined
  | .infinity s => .infinite (s == .negative)
  | .zero s => .finite (s == .negative) 0 (-1074)
  | .finite s m e _ => .finite (s == .negative) m e

theorem ofFloat_eq (x : Float) : ofFloat x = .ofUnpacked x.toModel.unpack := by
  have exponent := Clock.toNat_unpackExponent x
  have mantissa := toNat_unpackMantissa x
  have sign : (Sign.ofBitVec (@unpackSign binary64 x.toModel.toBits.toBitVec) == .negative) =
      (x.toBits.toNat / Nat.pow 2 63 == 1) := by
    rw [← toNat_unpackSign]
    generalize @unpackSign binary64 x.toModel.toBits.toBitVec = b
    decide +revert
  have full : @unpackExponent binary64 x.toModel.toBits.toBitVec = (-1#_) ↔
      x.toBits.toNat / Nat.pow 2 52 % Nat.pow 2 11 = 2047 := by
    rw [← exponent, ← BitVec.toNat_inj]
    rfl
  have least : @unpackExponent binary64 x.toModel.toBits.toBitVec = 0#_ ↔
      x.toBits.toNat / Nat.pow 2 52 % Nat.pow 2 11 = 0 := by
    rw [← exponent, ← BitVec.toNat_inj]
    rfl
  have clear : @unpackMantissa binary64 x.toModel.toBits.toBitVec = 0#_ ↔
      x.toBits.toNat % Nat.pow 2 52 = 0 := by
    rw [← mantissa, ← BitVec.toNat_inj]
    rfl
  have bias : (binary64.exponentBias : Int) + binary64.mantissaBitsWithoutImplicit = 1075 := rfl
  rw [ofFloat, Float.Model.unpack, UnpackedFloat.unpack]
  simp only [full, least, clear, bias]
  split
  · split
    · simp only [ofUnpacked, sign]
    · rfl
  · split
    · rename_i none
      split
      · rename_i zero
        simp only [ofUnpacked, sign, zero]
      · simp only [ofUnpacked, sign, mantissa, exponent, none]
        rfl
    · simp only [ofUnpacked, sign, exponent, ← mantissa]
      congr 1
      have joined := BitVec.toNat_append (1#1) (@unpackMantissa binary64 x.toModel.toBits.toBitVec)
      rw [joined, ← Nat.shiftLeft_add_eq_or_of_lt (BitVec.isLt _)]
      rfl

end Scaled

namespace Number

/-- What a number is worth, unless it is undefined. -/
noncomputable def worth? (a : Number) : Option EReal := a.scaled.worth?

theorem lt_iff_worth {a b : Number} {x y : EReal} (left : a.worth? = some x)
    (right : b.worth? = some y) : a.lt b = true ↔ x < y :=
  Scaled.lt_iff left right

theorem le_iff_worth {a b : Number} {x y : EReal} (left : a.worth? = some x)
    (right : b.worth? = some y) : a.le b = true ↔ x ≤ y := by
  rw [le, Bool.or_eq_true, lt_iff_worth left right, le_iff_lt_or_eq]
  exact or_congr_right (Scaled.eq_iff left right)

theorem worth?_whole (n : Int) : (whole n).worth? = some ((n : ℝ) : EReal) := by
  have units := @Scaled.units_mul (decide (n < 0)) n.natAbs 0 0 le_rfl
  rw [Scaled.units_natAbs, zpow_zero, mul_one] at units
  rw [worth?, scaled, Scaled.ofInt, Scaled.worth?, units, zpow_zero, mul_one]

/-- The smaller of two numbers is worth the smaller of what they are worth. -/
theorem worth?_min {a b : Number} {x y : EReal} (left : a.worth? = some x)
    (right : b.worth? = some y) : (a.min b).worth? = some (Min.min x y) := by
  rw [Number.min]
  split
  · rename_i less
    rw [right, min_eq_right ((lt_iff_worth right left).mp less).le]
  · rename_i more
    rw [left, min_eq_left (not_lt.mp (mt (lt_iff_worth right left).mpr more))]

theorem worth?_real (x : Float) :
    (real x).worth? = (Scaled.ofUnpacked x.toModel.unpack).worth? := by
  rw [worth?, scaled, Scaled.ofFloat_eq]

/-- What is packed is worth the same, or it is beyond the doubles. -/
theorem exists_worth?_pack {m : Nat} {e : Int} (canonical : Canonical m e) (positive : 0 < m) :
    ∃ r, (Scaled.ofUnpacked (unpack binary64
        (pack binary64 (.finite .positive m e positive)))).worth? = some r ∧
      (r = ((m * 2 ^ e : ℝ) : EReal) ∨
        r = ⊤ ∧ ((2 ^ (1024 : Int) : ℝ) : EReal) ≤ ((m * 2 ^ e : ℝ) : EReal)) := by
  rw [canonical.unpack_pack positive]
  split
  · refine ⟨_, rfl, .inl ?_⟩
    simp
  · refine ⟨⊤, rfl, .inr ⟨rfl, EReal.coe_le_coe_iff.mpr ?_⟩⟩
    rename_i beyond
    -- What has clear bits in front is in the least unit, far from the end of the doubles.
    have normal : 2 ^ 52 ≤ m := canonical.full.resolve_right (by omega)
    calc (2 : ℝ) ^ (1024 : Int)
      _ = (2 ^ 52 : Nat) * 2 ^ (972 : Int) := by
        rw [Nat.cast_pow, Nat.cast_ofNat, ← zpow_natCast, ← zpow_add₀ two_ne_zero]
        rfl
      _ ≤ m * 2 ^ e :=
        mul_le_mul (Nat.cast_le.mpr normal) (zpow_le_zpow_right₀ one_le_two (by omega))
          (by positivity) (by positivity)

/-- A double times a power of two is worth exactly that, or it is beyond the doubles. -/
theorem worth?_mul_powerOfTwo {x : Float} {r : EReal} {k : Int}
    (known : (real x).worth? = some r) (nonnegative : 0 ≤ r) (natural : 0 ≤ k) (below : k < 1024) :
    ∃ r', (real (x * powerOfTwo k)).worth? = some r' ∧
      (r' = r * ((2 ^ k : ℝ) : EReal) ∨
        r' = ⊤ ∧ ((2 ^ (1024 : Int) : ℝ) : EReal) ≤ r * ((2 ^ k : ℝ) : EReal)) := by
  have product : (real (x * powerOfTwo k)).worth? = (Scaled.ofUnpacked (unpack binary64
      (pack binary64 (mul binary64 x.toModel.unpack
        (.finite .positive (2 ^ 52) (k - 52) (by positivity)))))).worth? := by
    rw [worth?_real, ← unpack_powerOfTwo natural below]
    rfl
  have scale : (0 : ℝ) < 2 ^ k := by positivity
  rw [product]
  rw [worth?_real] at known
  cases unpacked : x.toModel.unpack with
  | notANumber =>
    rw [unpacked] at known
    cases known
  | infinity s =>
    rw [unpacked] at known
    rw [UnpackedFloat.mul, unpack_pack_infinity]
    cases s with
    | negative =>
      cases known
      exact absurd nonnegative (by simp)
    | positive =>
      cases known
      exact ⟨⊤, rfl, .inl (EReal.top_mul_coe_of_pos scale).symm⟩
  | zero s =>
    rw [unpacked] at known
    rw [UnpackedFloat.mul, unpack_pack_zero]
    have nothing : r = 0 := by
      cases known
      simp
    refine ⟨0, ?_, .inl ?_⟩
    · simp [Scaled.ofUnpacked, Scaled.worth?]
    · rw [nothing, zero_mul]
  | finite s m e positive =>
    rw [unpacked] at known
    have canonical := Canonical.of_unpack unpacked
    cases s with
    | negative =>
      cases known
      have some : (0 : ℝ) < m * 2 ^ e := by positivity
      exact absurd (EReal.coe_nonneg.mp nonnegative) (by simp; linarith)
    | positive =>
      cases known
      obtain ⟨m', e', positive', rounded, canonical', worth⟩ :=
        canonical.round positive natural .positive
      have scaled : (m' : ℝ) * 2 ^ e' = m * 2 ^ e * 2 ^ k := by
        rw [worth, mul_assoc, zpow_add₀ two_ne_zero]
      have packed := exists_worth?_pack canonical' positive'
      rw [scaled] at packed
      rw [UnpackedFloat.mul, show Sign.positive * Sign.positive = .positive from rfl, rounded,
        ← EReal.coe_mul]
      simpa using packed

theorem worth?_toFloat {m : Nat} (small : m < 2 ^ 53) :
    (real m.toUInt64.toFloat).worth? = some ((m : ℝ) : EReal) := by
  have own : m.toUInt64.toNat = m := by
    rw [UInt64.toNat_ofNat', Nat.mod_eq_of_lt (by omega)]
  have unpacked : (real m.toUInt64.toFloat).worth? = (Scaled.ofUnpacked (unpack binary64
      (pack binary64
        (UnpackedFloat.normalize binary64 (m.toUInt64.toNat : Int) 0 .positive)))).worth? := by
    rw [worth?_real]
    rfl
  rw [unpacked, own, UnpackedFloat.normalize]
  rcases Nat.eq_zero_or_pos m with rfl | positive
  · rw [show compare ((0 : Nat) : Int) 0 = .eq from rfl]
    dsimp only
    rw [unpack_pack_zero]
    simp [Scaled.ofUnpacked, Scaled.worth?]
  · obtain ⟨m', e', positive', rounded, canonical, top, worth⟩ :=
      round_of_small positive small .positive
    rw [Int.compare_eq_gt.mpr (by omega), Int.toNat_natCast]
    dsimp only
    rw [rounded, canonical.unpack_pack positive', if_pos top, ← worth]
    simp [Scaled.ofUnpacked, Scaled.worth?]

theorem exists_finite_of_worth? {x : Float} {r : ℝ} (known : (real x).worth? = some (r : EReal)) :
    ∃ negative m e, Scaled.ofFloat x = .finite negative m e := by
  rw [worth?, scaled] at known
  cases unfolded : Scaled.ofFloat x with
  | finite negative m e => exact ⟨negative, m, e, rfl⟩
  | undefined =>
    rw [unfolded] at known
    cases known
  | infinite negative =>
    rw [unfolded] at known
    cases negative <;> simp [Scaled.worth?] at known

theorem nearest?_eq_some {n : Int} (natural : 0 ≤ n) {negative : Bool} {m : Nat} {e : Int}
    (finite : Scaled.ofFloat (Float.ofScientific n.natAbs false 0) = .finite negative m e) :
    nearest? n = some (Float.ofScientific n.natAbs false 0) := by
  simp only [nearest?, finite, if_neg (not_lt.mpr natural)]

/-- A whole number of at most 53 bits is worth what the double is that is written like it. -/
theorem worth?_ofScientific {m : Nat} (small : m < 2 ^ 53) :
    (real (Float.ofScientific m false 0)).worth? = some ((m : ℝ) : EReal) := by
  have fast : Float.ofScientific m false 0 = m.toUInt64.toFloat * powerOfTwo 0 := by
    rw [Float.ofScientific, dif_pos ⟨small, Nat.zero_le 22⟩]
    rfl
  obtain ⟨r, known, scaled | ⟨-, beyond⟩⟩ := worth?_mul_powerOfTwo (worth?_toFloat small)
    (EReal.coe_nonneg.mpr (Nat.cast_nonneg m)) le_rfl (by omega : (0 : Int) < 1024)
  · rw [zpow_zero, EReal.coe_one, mul_one] at scaled
    rw [fast, known, scaled]
  · rw [zpow_zero, EReal.coe_one, mul_one, EReal.coe_le_coe_iff] at beyond
    have least : (2 : ℝ) ^ 53 ≤ 2 ^ (1024 : Int) := by
      rw [← zpow_natCast]
      exact zpow_le_zpow_right₀ one_le_two (by norm_num)
    have most : (m : ℝ) < 2 ^ 53 := by exact_mod_cast small
    exact absurd (least.trans beyond) (not_le.mpr most)

theorem nearest?_of_small {n : Int} (natural : 0 ≤ n) (small : n < 2 ^ 53) :
    ∃ x, nearest? n = some x ∧ (real x).worth? = some ((n : ℝ) : EReal) := by
  obtain ⟨m, rfl⟩ := Int.eq_ofNat_of_zero_le natural
  have known := worth?_ofScientific (m := m) (by omega)
  obtain ⟨negative, m', e', finite⟩ := exists_finite_of_worth? known
  exact ⟨_, nearest?_eq_some natural finite, known⟩

/-- The least whole number that is rounded to one beyond the doubles. -/
def edge : Nat := (2 ^ 54 - 1) * 2 ^ 970

theorem edge_le : ((edge : ℝ) : EReal) ≤ ((2 ^ (1024 : Int) : ℝ) : EReal) := by
  have below : edge ≤ 2 ^ 54 * 2 ^ 970 := by
    unfold edge
    gcongr
    exact Nat.sub_le _ _
  rw [EReal.coe_le_coe_iff]
  calc (edge : ℝ)
    _ ≤ ((2 ^ 54 * 2 ^ 970 : Nat) : ℝ) := Nat.cast_le.mpr below
    _ = 2 ^ (1024 : Int) := by
      rw [← pow_add, Nat.cast_pow, Nat.cast_ofNat]
      rfl

theorem lt_edge_of_small {r : EReal} (small : r < ((2 ^ 53 : ℝ) : EReal)) :
    r < ((edge : ℝ) : EReal) := by
  have beyond : 2 ^ 53 ≤ edge := by
    have unit : 0 < 2 ^ 970 := by positivity
    unfold edge
    generalize 2 ^ 970 = power at unit ⊢
    omega
  refine small.trans_le (EReal.coe_le_coe_iff.mpr ?_)
  calc (2 : ℝ) ^ 53
    _ = ((2 ^ 53 : Nat) : ℝ) := by rw [Nat.cast_pow, Nat.cast_ofNat]
    _ ≤ (edge : ℝ) := Nat.cast_le.mpr beyond

/-- A power of two times a number is worth as many times more, unless it is beyond the doubles. -/
theorem exists_timesPowerOfTwo {a : Number} {r : EReal} {k : Int} (known : a.worth? = some r)
    (nonnegative : 0 ≤ r) (natural : 0 ≤ k) (fits : (∃ n, a = .whole n) ∨ k < 1024) :
    ∃ product r', a.timesPowerOfTwo k = some product ∧ product.worth? = some r' ∧
      (r' = r * ((2 ^ k : ℝ) : EReal) ∨
        r' = ⊤ ∧ ((2 ^ (1024 : Int) : ℝ) : EReal) ≤ r * ((2 ^ k : ℝ) : EReal)) := by
  cases a with
  | minusUndefined => cases known
  | whole n =>
    refine ⟨_, _, if_pos natural, worth?_whole _, .inl ?_⟩
    have scale : (2 : ℝ) ^ k = 2 ^ k.toNat := by
      rw [← zpow_natCast, Int.toNat_of_nonneg natural]
    rw [worth?_whole] at known
    obtain rfl := Option.some.inj known
    have power : Nat.pow 2 k.toNat = 2 ^ k.toNat := rfl
    rw [← EReal.coe_mul, scale, power]
    push_cast
    rfl
  | real x =>
    have below : k < 1024 := fits.resolve_left (by rintro ⟨n, ⟨⟩⟩)
    obtain ⟨r', product, worth⟩ := worth?_mul_powerOfTwo known nonnegative natural below
    exact ⟨_, r', if_pos below, product, worth⟩

/-- The double next to a number of at most 53 bits is worth the same. -/
theorem toFloat?_of_small {a : Number} {r : EReal} (known : a.worth? = some r)
    (nonnegative : 0 ≤ r) (small : r < ((2 ^ 53 : ℝ) : EReal)) :
    ∃ x, a.toFloat? = some x ∧ (real x).worth? = some r := by
  cases a with
  | minusUndefined => cases known
  | real x => exact ⟨x, rfl, known⟩
  | whole n =>
    rw [worth?_whole] at known
    obtain rfl := Option.some.inj known
    rw [EReal.coe_nonneg, Int.cast_nonneg_iff] at nonnegative
    have narrow : n < 2 ^ 53 := by
      rw [EReal.coe_lt_coe_iff] at small
      exact_mod_cast small
    exact nearest?_of_small nonnegative narrow

end Number

end CloudSession
