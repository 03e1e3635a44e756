import MarkupSemantics.Proofs.BinaryValues

/-!
# Rounding to the nearest value

`nearest?` scales a number by a power of two, rounds it to a natural number, and takes care of a
significand that becomes too long. `nearest?_eq_some_iff` says that it gives the nearest value, with
ties to even, and `overflow_le_of_nearest?` that it fails only where the value would be infinite.
`IsNearest.unique` says that there is one nearest value.
-/

namespace MarkupSemantics.Decimal

variable {b c : Binary64} {x y : Rat}

/-! ### Powers of two and halves -/

/-- A natural number lies between two neighbouring powers of two. -/
theorem two_pow_log2_bounds {n : Nat} (hn : n ≠ 0) :
    (2 : Rat) ^ n.log2 ≤ n ∧ (n : Rat) < 2 ^ (n.log2 + 1) := by
  have hle : ((2 ^ n.log2 : Nat) : Rat) ≤ n := Nat.cast_le.2 (Nat.log2_self_le hn)
  have hlt : (n : Rat) < (2 ^ (n.log2 + 1) : Nat) := Nat.cast_lt.2 Nat.lt_log2_self
  push_cast at hle hlt
  exact ⟨hle, hlt⟩

/-- The logarithms of the numerator and the denominator give the logarithm of a positive number up
to one. -/
theorem log2_num_den_bounds (hx : 0 < x) :
    2 ^ ((x.num.natAbs.log2 : Int) - x.den.log2 - 1) ≤ x ∧
      x < 2 ^ ((x.num.natAbs.log2 : Int) - x.den.log2 + 1) := by
  have hnum : x.num.natAbs ≠ 0 := Int.natAbs_ne_zero.2 (Rat.num_pos.2 hx).ne'
  have hfraction : x = x.num.natAbs / x.den := by
    rw [eq_div_iff (Nat.cast_ne_zero.2 x.den_nz), Rat.mul_den_eq_num, ← Int.cast_natCast,
      Int.natAbs_of_nonneg (Rat.num_pos.2 hx).le]
  obtain ⟨hnumLe, hnumLt⟩ := two_pow_log2_bounds hnum
  obtain ⟨hdenLe, hdenLt⟩ := two_pow_log2_bounds x.den_nz
  constructor
  · calc (2 : Rat) ^ ((x.num.natAbs.log2 : Int) - x.den.log2 - 1)
        = 2 ^ x.num.natAbs.log2 / 2 ^ (x.den.log2 + 1) := by
          rw [← zpow_natCast, ← zpow_natCast, ← zpow_sub₀ (by norm_num)]
          congr 1
          omega
      _ ≤ x.num.natAbs / x.den :=
          div_le_div₀ (Nat.cast_nonneg _) hnumLe (Nat.cast_pos.2 x.den_pos) hdenLt.le
      _ = x := hfraction.symm
  · calc x = x.num.natAbs / x.den := hfraction
      _ < 2 ^ (x.num.natAbs.log2 + 1) / 2 ^ x.den.log2 :=
          div_lt_div₀ hnumLt hdenLe (by positivity) (by positivity)
      _ = 2 ^ ((x.num.natAbs.log2 : Int) - x.den.log2 + 1) := by
          rw [← zpow_natCast, ← zpow_natCast, ← zpow_sub₀ (by norm_num)]
          congr 1
          omega

/-- A positive number lies between a power of two and its double. -/
theorem floor_log2_spec (hx : 0 < x) :
    2 ^ floorLog2 x ≤ x ∧ x < 2 ^ (floorLog2 x + 1) := by
  obtain ⟨hlower, hupper⟩ := log2_num_den_bounds hx
  rw [floorLog2]
  split
  · rename_i h
    exact ⟨h, hupper⟩
  · rename_i h
    refine ⟨hlower, ?_⟩
    rw [sub_add_cancel]
    exact not_le.1 h

/-- `scale x` is the exponent of the power of two that is the unit in which `x` is rounded. -/
def scale (x : Rat) : Int :=
  max (-1074) (floorLog2 x - 52)

/-- In its unit a positive number has no more than 53 digits, and no fewer unless the unit is the
least one. -/
theorem scaled_bounds (hx : 0 < x) :
    x / 2 ^ scale x < 2 ^ 53 ∧ (scale x = -1074 ∨ 2 ^ 52 ≤ x / 2 ^ scale x) := by
  obtain ⟨hlower, hupper⟩ := floor_log2_spec hx
  have hunit : (0 : Rat) < 2 ^ scale x := zpow_pos (by norm_num) _
  constructor
  · rw [div_lt_iff₀ hunit, ← zpow_natCast, ← zpow_add₀ (by norm_num)]
    exact hupper.trans_le (zpow_le_zpow_right₀ (by norm_num) (by rw [scale]; omega))
  · rcases max_choice (-1074) (floorLog2 x - 52) with h | h
    · exact Or.inl h
    · right
      rw [le_div_iff₀ hunit, ← zpow_natCast, ← zpow_add₀ (by norm_num)]
      exact (zpow_le_zpow_right₀ (by norm_num) (by rw [scale, h]; omega)).trans hlower

/-- A number that is not negative lies between two natural numbers. -/
theorem floor_to_nat_bounds (hx : 0 ≤ x) : (x.floor.toNat : Rat) ≤ x ∧ x < x.floor.toNat + 1 := by
  have hfloor : ((x.floor.toNat : Nat) : Rat) = (x.floor : Rat) := by
    rw [← Int.cast_natCast, Int.toNat_of_nonneg (Rat.le_floor_iff.2 hx)]
  have hlt := Rat.lt_floor_add_one x
  push_cast at hlt
  rw [hfloor]
  exact ⟨Rat.floor_le x, hlt⟩

/-- Rounding to a natural number changes a number by at most one half, and by just one half only if
the result is even. -/
theorem round_half_even_spec (hy : 0 ≤ y) :
    (roundHalfEven y : Rat) - 1 / 2 ≤ y ∧ y ≤ roundHalfEven y + 1 / 2 ∧
      (y = roundHalfEven y - 1 / 2 ∨ y = roundHalfEven y + 1 / 2 → roundHalfEven y % 2 = 0) := by
  obtain ⟨hbelow, habove⟩ := floor_to_nat_bounds hy
  unfold roundHalfEven
  generalize y.floor.toNat = k at hbelow habove ⊢
  simp only
  split
  · -- the number lies nearer to the one below
    refine ⟨by linarith, by linarith, ?_⟩
    rintro (h | h)
    · linarith
    · linarith
  · split
    · -- the number lies nearer to the one above
      push_cast
      refine ⟨by linarith, by linarith, ?_⟩
      rintro (h | h)
      · linarith
      · linarith
    · split
      · rename_i heven
        exact ⟨by linarith, by linarith, fun _ => heven⟩
      · push_cast
        exact ⟨by linarith, by linarith, fun _ => by omega⟩

/-- Rounding does not leave the interval between two natural numbers. -/
theorem round_half_even_le {k : Nat} (hy : 0 ≤ y) (h : y < k) : roundHalfEven y ≤ k := by
  obtain ⟨hnear, _, _⟩ := round_half_even_spec hy
  have hlt : (roundHalfEven y : Rat) < (k + 1 : Nat) := by
    push_cast
    linarith
  exact Nat.lt_succ_iff.1 (Nat.cast_lt.1 hlt)

/-- Rounding to a whole number does not go below a whole number. -/
theorem le_round_half_even {k : Nat} (hy : 0 ≤ y) (h : k ≤ y) : k ≤ roundHalfEven y := by
  obtain ⟨_, hnear, _⟩ := round_half_even_spec hy
  have hlt : (k : Rat) < (roundHalfEven y + 1 : Nat) := by
    push_cast
    linarith
  exact Nat.lt_succ_iff.1 (Nat.cast_lt.1 hlt)

namespace Binary64

section Scaled

variable {m : Nat} {e : Int}

/-- A number of units lies in the interval of the natural number of units that it is rounded to. -/
theorem holds_of_near (hnear : (m : Rat) - 1 / 2 ≤ y) (hnear' : y ≤ m + 1 / 2)
    (heven : y = m - 1 / 2 ∨ y = m + 1 / 2 → m % 2 = 0) (hlower : e = -1074 ∨ 2 ^ 52 ≤ y) :
    holds ⟨m, e⟩ (y * 2 ^ e) = true := by
  have hspacing : (0 : Rat) < 2 ^ e := zpow_pos (by norm_num) e
  have hwhole : spacing ⟨m, e⟩ = 2 ^ e := rfl
  have hmul := mul_le_mul_of_nonneg_right hnear hspacing.le
  have hmul' := mul_le_mul_of_nonneg_right hnear' hspacing.le
  have hupper : y * 2 ^ e = m * 2 ^ e + 2 ^ e / 2 → m % 2 = 0 := fun h =>
    heven (Or.inr (mul_right_cancel₀ hspacing.ne' (by rw [h]; ring)))
  rw [holds_iff, lower_eq, upper_eq, value_eq, hwhole]
  by_cases hpower : m = 2 ^ 52 ∧ -1074 < e
  · -- the interval is narrower below a power of two, but the number does not lie there
    have hhalf : spacingBelow ⟨m, e⟩ = 2 ^ e / 2 := if_pos hpower
    have hge : (m : Rat) ≤ y := by
      rw [hpower.1]
      push_cast
      exact hlower.resolve_left (by omega)
    have hmul := mul_le_mul_of_nonneg_right hge hspacing.le
    rw [hhalf]
    refine ⟨by linarith, by linarith, ?_⟩
    rintro (h | h)
    · linarith
    · exact hupper h
  · have hbelow : spacingBelow ⟨m, e⟩ = 2 ^ e := if_neg hpower
    rw [hbelow]
    refine ⟨by linarith, by linarith, ?_⟩
    rintro (h | h)
    · exact heven (Or.inl (mul_right_cancel₀ hspacing.ne' (by rw [h]; ring)))
    · exact hupper h

/-- A number of units that is rounded to a power of two with one digit too many lies in the interval
of this power of two. -/
theorem holds_of_carry (hnear : 2 ^ 53 - 1 / 2 ≤ y) (hupper : y < 2 ^ 53) (he : -1074 ≤ e) :
    holds ⟨2 ^ 52, e + 1⟩ (y * 2 ^ e) = true := by
  have hspacing : (0 : Rat) < 2 ^ e := zpow_pos (by norm_num) e
  have hdouble : spacing ⟨2 ^ 52, e + 1⟩ = 2 ^ e * 2 := zpow_add_one₀ (by norm_num) e
  have hhalf : spacingBelow ⟨2 ^ 52, e + 1⟩ = 2 ^ e := by
    rw [spacingBelow, if_pos ⟨rfl, by show -1074 < e + 1; omega⟩, hdouble]
    ring
  have hvalue : value ⟨2 ^ 52, e + 1⟩ = 2 ^ 53 * 2 ^ e := by
    show ((2 ^ 52 : Nat) : Rat) * spacing ⟨2 ^ 52, e + 1⟩ = 2 ^ 53 * 2 ^ e
    rw [hdouble]
    push_cast
    ring
  have hmul := mul_le_mul_of_nonneg_right hnear hspacing.le
  have hmul' := mul_le_mul_of_nonneg_right hupper.le hspacing.le
  have heven : 2 ^ 52 % 2 = 0 := by norm_num
  rw [holds_iff, lower_eq, upper_eq, hhalf, hdouble, hvalue]
  exact ⟨by linarith, by linarith, fun _ => heven⟩

end Scaled

/-- A positive number lies in the interval of the value that it is rounded to as if there were no
greatest exponent. -/
theorem exists_rounded (hx : 0 < x) :
    ∃ b : Binary64, nearest? x = (if b.exponent ≤ 971 then some b else none) ∧
      b.significand < 2 ^ 53 ∧ -1074 ≤ b.exponent ∧
      (b.exponent = -1074 ∨ 2 ^ 52 ≤ b.significand) ∧ b.holds x = true := by
  obtain ⟨hupper, hlower⟩ := scaled_bounds hx
  have hleast : -1074 ≤ scale x := le_max_left _ _
  have hpow : Nat.pow 2 52 = 2 ^ 52 ∧ Nat.pow 2 53 = 2 ^ 53 := ⟨rfl, rfl⟩
  have hnearest := nearest?.eq_def x
  simp only [← scale.eq_def, hpow.1, hpow.2] at hnearest
  generalize scale x = e at hupper hlower hleast hnearest
  have hunit : (0 : Rat) < 2 ^ e := zpow_pos (by norm_num) e
  obtain ⟨y, hy⟩ : ∃ y : Rat, y = x / 2 ^ e := ⟨_, rfl⟩
  have hxy : x = y * 2 ^ e := by
    rw [hy, div_mul_cancel₀ _ hunit.ne']
  have hnonneg : 0 ≤ y := hy ▸ (div_pos hx hunit).le
  rw [← hy] at hupper hlower hnearest
  obtain ⟨hnear, hnear', heven⟩ := round_half_even_spec hnonneg
  have hle : roundHalfEven y ≤ 2 ^ 53 := round_half_even_le hnonneg (by push_cast; exact hupper)
  have hnormal : e = -1074 ∨ 2 ^ 52 ≤ roundHalfEven y :=
    hlower.imp_right fun h => le_round_half_even hnonneg (by push_cast; exact h)
  generalize roundHalfEven y = m at hnear hnear' heven hnearest hle hnormal
  by_cases hcarry : m = 2 ^ 53
  · rw [if_pos hcarry] at hnearest
    rw [hcarry] at hnear
    push_cast at hnear
    refine ⟨⟨2 ^ 52, e + 1⟩, hnearest, ?_, ?_, ?_, ?_⟩
    · show 2 ^ 52 < 2 ^ 53
      norm_num
    · show -1074 ≤ e + 1
      omega
    · exact Or.inr (Nat.le_refl (2 ^ 52))
    · rw [hxy]
      exact holds_of_carry hnear hupper hleast
  · rw [if_neg hcarry] at hnearest
    refine ⟨⟨m, e⟩, hnearest, lt_of_le_of_ne hle hcarry, hleast, hnormal, ?_⟩
    rw [hxy]
    exact holds_of_near hnear hnear' heven hlower

/-- A positive number is rounded to a value in whose interval it lies. -/
theorem holds_of_nearest? (hx : 0 < x) (h : nearest? x = some b) :
    b.IsCanonical ∧ b.holds x = true := by
  obtain ⟨c, hc, hlt, hleast, hnormal, hholds⟩ := exists_rounded hx
  rw [hc] at h
  split at h
  · rename_i hgreatest
    cases h
    exact ⟨⟨hlt, hleast, hgreatest, hnormal⟩, hholds⟩
  · cases h

/-- A number that is not rounded to a value rounds to infinity. -/
theorem overflow_le_of_nearest? (hx : 0 < x) (h : nearest? x = none) : overflow ≤ x := by
  obtain ⟨c, hc, hlt, hleast, hnormal, hholds⟩ := exists_rounded hx
  rw [hc] at h
  split at h
  · cases h
  · rename_i hgreatest
    have hspacing : (2 : Rat) ^ (971 : Int) * 2 ≤ c.spacing := by
      rw [← zpow_add_one₀ (by norm_num)]
      exact zpow_le_zpow_right₀ (by norm_num) (by omega)
    have hlower : (2 ^ 52 - 1 / 4) * c.spacing ≤ c.lower :=
      le_lower_of_normal (by omega) (hnormal.resolve_left (by omega))
    calc overflow = (2 ^ 52 - 1 / 4) * (2 ^ (971 : Int) * 2) := by
          unfold overflow
          ring
      _ ≤ (2 ^ 52 - 1 / 4) * c.spacing := mul_le_mul_of_nonneg_left hspacing (by norm_num)
      _ ≤ c.lower := hlower
      _ ≤ x := (holds_iff.1 hholds).1

/-- A positive number is rounded to the nearest value. -/
theorem nearest?_eq_some_iff (hx : 0 < x) : nearest? x = some b ↔ b.IsNearest x := by
  constructor
  · intro h
    obtain ⟨hb, hholds⟩ := holds_of_nearest? hx h
    exact hb.is_nearest hholds
  · intro h
    cases hnearest : nearest? x with
    | none => exact absurd h.finite (not_lt.2 (overflow_le_of_nearest? hx hnearest))
    | some c =>
        obtain ⟨hc, hholds⟩ := holds_of_nearest? hx hnearest
        rw [h.eq_of_holds hc hholds]

/-! ### The numbers that round to a value -/

/-- Zero is the nearest value to itself alone. -/
theorem IsNearest.value_eq_zero (h : b.IsNearest 0) : b.value = 0 := by
  have hzero : IsCanonical ⟨0, -1074⟩ := ⟨by norm_num, le_refl _, by norm_num, Or.inl rfl⟩
  have hle := h.nearest _ hzero
  rw [value_eq ⟨0, -1074⟩, Nat.cast_zero, zero_mul, sub_zero, abs_zero, zero_sub, abs_neg] at hle
  exact abs_eq_zero.1 (le_antisymm hle (abs_nonneg _))

/-- The numbers that round to a value other than zero are those in its interval. -/
theorem IsCanonical.is_nearest_iff (hb : b.IsCanonical) (hpos : 0 < b.significand) (hx : 0 ≤ x) :
    b.IsNearest x ↔ b.holds x = true := by
  refine ⟨fun h => ?_, hb.is_nearest⟩
  rcases hx.eq_or_lt with rfl | hx
  · have hvalue : 0 < b.value := mul_pos (Nat.cast_pos.2 hpos) b.spacing_pos
    exact absurd h.value_eq_zero hvalue.ne'
  · exact (holds_of_nearest? hx ((nearest?_eq_some_iff hx).2 h)).2

/-- A number that is not negative rounds to one value at most. -/
theorem IsNearest.unique (hx : 0 ≤ x) (hb : b.IsNearest x) (hc : c.IsNearest x) : b = c := by
  rcases hx.eq_or_lt with rfl | hx
  · refine hb.canonical.eq_of_value_eq hc.canonical ?_
    rw [hb.value_eq_zero, hc.value_eq_zero]
  · have hsame := ((nearest?_eq_some_iff hx).2 hb).symm.trans ((nearest?_eq_some_iff hx).2 hc)
    exact Option.some.inj hsame

end Binary64

end MarkupSemantics.Decimal
