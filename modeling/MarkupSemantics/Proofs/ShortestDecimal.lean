import Mathlib.Data.Nat.Factorization.Basic
import MarkupSemantics.Decimal.Shortest
import MarkupSemantics.Proofs.DecimalDigits
import MarkupSemantics.Proofs.NearestValue

/-!
# The shortest decimal of a value

`IsShortest b d` says `d` is the decimal that `b` is written as: of the decimals that round to `b`,
those that end at the highest place, and of these the nearest to `b`. The search looks at the two
neighbours of `b` on each grid of decimals, from the coarsest grid on. This finds a decimal if there
is one on the grid (`at_place?_ne_none`), and `shortest?_eq_some_iff` says that the search finds the
shortest decimal of every value.
-/

namespace MarkupSemantics.Decimal

/-- `d.value` is the number that `d` stands for. -/
def Scaled.value (d : Scaled) : Rat :=
  d.coefficient * 10 ^ d.place

variable {b : Binary64} {d : Scaled} {p : Int} {k : Nat}

/-- A decimal is not negative. -/
theorem Scaled.value_nonneg (d : Scaled) : 0 ≤ d.value :=
  mul_nonneg (Nat.cast_nonneg _) (zpow_nonneg (by norm_num) _)

namespace Binary64

/-- `b.IsClosest d` says `d` rounds to `b`, and of the decimals that round to `b` and end at the
same place it is the nearest to `b`, the greater of two. -/
structure IsClosest (b : Binary64) (d : Scaled) : Prop where
  /-- The decimal rounds to the value. -/
  rounds : b.IsNearest d.value
  /-- No decimal that ends at the same place is nearer. -/
  closest : ∀ other : Scaled, b.IsNearest other.value → other.place = d.place →
    |b.value - d.value| ≤ |b.value - other.value|
  /-- No decimal that ends at the same place and is as near is greater. -/
  greatest : ∀ other : Scaled, b.IsNearest other.value → other.place = d.place →
    |b.value - other.value| = |b.value - d.value| → other.coefficient ≤ d.coefficient

/-- `b.IsShortest d` says no decimal that rounds to `b` ends at a higher place than `d`, and `d` is
the closest of those that end where it does. -/
structure IsShortest (b : Binary64) (d : Scaled) : Prop extends b.IsClosest d where
  /-- No decimal that rounds to the value is shorter. -/
  coarsest : ∀ other : Scaled, b.IsNearest other.value → other.place ≤ d.place

/-- A value has one shortest decimal at most. -/
theorem IsShortest.unique {other : Scaled} (h : b.IsShortest d) (hother : b.IsShortest other) :
    d = other := by
  have hplace : other.place = d.place :=
    le_antisymm (h.coarsest other hother.rounds) (hother.coarsest d h.rounds)
  have hdistance : |b.value - other.value| = |b.value - d.value| :=
    le_antisymm (hother.closest d h.rounds hplace.symm) (h.closest other hother.rounds hplace)
  have hcoefficient : d.coefficient = other.coefficient :=
    le_antisymm (hother.greatest d h.rounds hplace.symm hdistance.symm)
      (h.greatest other hother.rounds hplace hdistance)
  cases d
  cases other
  cases hplace
  cases hcoefficient
  rfl

/-! ### The decimals that end at a place -/

/-- `b.below p` is the number of units of the place `p` up to `b`. -/
def below (b : Binary64) (p : Int) : Nat :=
  (b.value / 10 ^ p).floor.toNat

/-- The unit of a place is above zero. -/
theorem unit_pos (p : Int) : (0 : Rat) < 10 ^ p :=
  zpow_pos (by norm_num) p

/-- A value lies between two neighbouring multiples of the unit of a place. -/
theorem below_spec (b : Binary64) (p : Int) :
    b.below p * 10 ^ p ≤ b.value ∧ b.value < (b.below p + 1) * 10 ^ p := by
  have hunit := unit_pos p
  obtain ⟨hle, hlt⟩ := floor_to_nat_bounds (div_nonneg b.value_nonneg hunit.le)
  exact ⟨(le_div_iff₀ hunit).1 hle, (div_lt_iff₀ hunit).1 hlt⟩

/-- A decimal up to the value is no nearer than the greatest of them, and if it rounds to the value,
so does the greatest. -/
theorem distance_of_le_below (h : k ≤ b.below p) :
    b.value - b.below p * 10 ^ p ≤ |b.value - k * 10 ^ p| ∧
      (b.holds (k * 10 ^ p) = true → b.holds (b.below p * 10 ^ p) = true) := by
  obtain ⟨hle, _⟩ := b.below_spec p
  have hk : k * 10 ^ p ≤ b.below p * (10 : Rat) ^ p :=
    mul_le_mul_of_nonneg_right (Nat.cast_le.2 h) (unit_pos p).le
  rw [abs_of_nonneg (by linarith)]
  exact ⟨by linarith, fun hholds => holds_of_between hholds b.holds_value hk hle⟩

/-- A decimal above the value is farther away than the least of them, unless it is the least, and if
it rounds to the value, so does the least. -/
theorem distance_of_below_lt (h : b.below p < k) :
    (b.below p + 1) * 10 ^ p - b.value ≤ |b.value - k * 10 ^ p| ∧
      (|b.value - k * 10 ^ p| = (b.below p + 1) * 10 ^ p - b.value → k = b.below p + 1) ∧
      (b.holds (k * 10 ^ p) = true → b.holds ((b.below p + 1) * 10 ^ p) = true) := by
  obtain ⟨_, hlt⟩ := b.below_spec p
  have hunit := unit_pos p
  have hcast : ((b.below p + 1 : Nat) : Rat) ≤ k := Nat.cast_le.2 h
  have hk := mul_le_mul_of_nonneg_right hcast hunit.le
  push_cast at hk
  rw [abs_of_neg (by linarith)]
  refine ⟨by linarith, fun heq => ?_, fun hholds => holds_of_between b.holds_value hholds hlt.le hk⟩
  have hsame : (k : Rat) * 10 ^ p = (b.below p + 1 : Nat) * 10 ^ p := by
    push_cast
    linarith
  exact Nat.cast_injective (mul_right_cancel₀ hunit.ne' hsame)

/-- The multiple below is not above the value. -/
theorem distance_below (b : Binary64) (p : Int) :
    |b.value - b.below p * 10 ^ p| = b.value - b.below p * 10 ^ p :=
  abs_of_nonneg (sub_nonneg.2 (b.below_spec p).1)

/-- The multiple above is not below the value. -/
theorem distance_above (b : Binary64) (p : Int) :
    |b.value - (b.below p + 1 : Nat) * 10 ^ p| = (b.below p + 1) * 10 ^ p - b.value := by
  push_cast
  rw [abs_sub_comm]
  exact abs_of_pos (sub_pos.2 (b.below_spec p).2)

section Closest

variable (hb : b.IsCanonical) (hpos : 0 < b.significand)
include hb hpos

/-- A decimal need only be compared with those that lie in the interval of the value. -/
theorem IsCanonical.is_closest (hholds : b.holds d.value = true)
    (h : ∀ k : Nat, b.holds (k * 10 ^ d.place) = true →
      |b.value - d.value| ≤ |b.value - k * 10 ^ d.place| ∧
        (|b.value - k * 10 ^ d.place| = |b.value - d.value| → k ≤ d.coefficient)) :
    b.IsClosest d where
  rounds := hb.is_nearest hholds
  closest other hother hplace := by
    have hvalue : other.value = other.coefficient * 10 ^ d.place := by rw [Scaled.value, hplace]
    rw [hb.is_nearest_iff hpos other.value_nonneg, hvalue] at hother
    rw [hvalue]
    exact (h _ hother).1
  greatest other hother hplace := by
    have hvalue : other.value = other.coefficient * 10 ^ d.place := by rw [Scaled.value, hplace]
    rw [hb.is_nearest_iff hpos other.value_nonneg, hvalue] at hother
    rw [hvalue]
    exact (h _ hother).2

/-- The neighbour below is the closest decimal if the one above does not round to the value or is
farther away. -/
theorem IsCanonical.is_closest_below (hholds : b.holds (b.below p * 10 ^ p) = true)
    (habove : b.holds ((b.below p + 1) * 10 ^ p) = true →
      b.value - b.below p * 10 ^ p < (b.below p + 1) * 10 ^ p - b.value) :
    b.IsClosest ⟨b.below p, p⟩ := by
  refine hb.is_closest hpos hholds fun k hk => ?_
  show |b.value - b.below p * 10 ^ p| ≤ |b.value - k * 10 ^ p| ∧
    (|b.value - k * 10 ^ p| = |b.value - b.below p * 10 ^ p| → k ≤ b.below p)
  rw [distance_below]
  rcases Nat.lt_or_ge (b.below p) k with hlt | hle
  · obtain ⟨hfar, _, hnext⟩ := distance_of_below_lt hlt
    have hless := habove (hnext hk)
    exact ⟨by linarith, fun heq => by linarith⟩
  · exact ⟨(distance_of_le_below hle).1, fun _ => hle⟩

/-- The neighbour above is the closest decimal if the one below does not round to the value or is
no nearer. -/
theorem IsCanonical.is_closest_above (hholds : b.holds ((b.below p + 1) * 10 ^ p) = true)
    (hbelow : b.holds (b.below p * 10 ^ p) = true →
      (b.below p + 1) * 10 ^ p - b.value ≤ b.value - b.below p * 10 ^ p) :
    b.IsClosest ⟨b.below p + 1, p⟩ := by
  have hvalue : Scaled.value ⟨b.below p + 1, p⟩ = (b.below p + 1) * 10 ^ p := by
    rw [Scaled.value]
    push_cast
    rfl
  rw [← hvalue] at hholds
  refine hb.is_closest hpos hholds fun k hk => ?_
  show |b.value - (b.below p + 1 : Nat) * 10 ^ p| ≤ |b.value - k * 10 ^ p| ∧
    (|b.value - k * 10 ^ p| = |b.value - (b.below p + 1 : Nat) * 10 ^ p| → k ≤ b.below p + 1)
  rw [distance_above]
  rcases Nat.lt_or_ge (b.below p) k with hlt | hle
  · obtain ⟨hfar, htie, _⟩ := distance_of_below_lt hlt
    exact ⟨hfar, fun heq => (htie heq).le⟩
  · obtain ⟨hfar, hnext⟩ := distance_of_le_below hle
    exact ⟨(hbelow (hnext hk)).trans hfar, fun _ => Nat.le_succ_of_le hle⟩

end Closest

/-! ### The search -/

/-- What is found at a place is the neighbour that rounds to the value, or the nearer of the two,
the upper one if both are as near. -/
theorem at_place?_eq (b : Binary64) (p : Int) : b.atPlace? p =
    match b.holds (b.below p * 10 ^ p), b.holds ((b.below p + 1) * 10 ^ p) with
    | true, true =>
      some ⟨if b.value - b.below p * 10 ^ p < (b.below p + 1) * 10 ^ p - b.value then b.below p
        else b.below p + 1, p⟩
    | true, false => some ⟨b.below p, p⟩
    | false, true => some ⟨b.below p + 1, p⟩
    | false, false => none := rfl

/-- If a decimal that ends at a place rounds to the value, one of the two neighbours there does. -/
theorem at_place?_ne_none (h : b.holds (k * 10 ^ p) = true) : b.atPlace? p ≠ none := by
  rw [at_place?_eq]
  rcases Nat.lt_or_ge (b.below p) k with hlt | hle
  · rw [(distance_of_below_lt hlt).2.2 h]
    cases b.holds (b.below p * 10 ^ p) with
    | false => exact Option.some_ne_none _
    | true => exact Option.some_ne_none _
  · rw [(distance_of_le_below hle).2 h]
    cases b.holds ((b.below p + 1) * 10 ^ p) with
    | false => exact Option.some_ne_none _
    | true => exact Option.some_ne_none _

/-- What is found at a place is the closest of the decimals that end there. -/
theorem IsCanonical.is_closest_of_at_place? (hb : b.IsCanonical) (hpos : 0 < b.significand)
    (h : b.atPlace? p = some d) : d.place = p ∧ b.IsClosest d := by
  rw [at_place?_eq] at h
  cases hbelow : b.holds (b.below p * 10 ^ p) with
  | true =>
      cases habove : b.holds ((b.below p + 1) * 10 ^ p) with
      | true =>
          simp only [hbelow, habove, Option.some.injEq] at h
          split at h
          · rename_i hless
            subst h
            exact ⟨rfl, hb.is_closest_below hpos hbelow fun _ => hless⟩
          · rename_i hnotLess
            subst h
            exact ⟨rfl, hb.is_closest_above hpos habove fun _ => not_lt.1 hnotLess⟩
      | false =>
          simp only [hbelow, habove, Option.some.injEq] at h
          subst h
          exact ⟨rfl, hb.is_closest_below hpos hbelow fun hother => by simp [habove] at hother⟩
  | false =>
      cases habove : b.holds ((b.below p + 1) * 10 ^ p) with
      | true =>
          simp only [hbelow, habove, Option.some.injEq] at h
          subst h
          exact ⟨rfl, hb.is_closest_above hpos habove fun hother => by simp [hbelow] at hother⟩
      | false => simp [hbelow, habove] at h

/-! ### The places of the search -/

/-- The places of the search go from the last one of the least value to the number of digits of the
whole part. -/
theorem mem_places : p ∈ b.places ↔ -324 ≤ p ∧ p ≤ (digits b.value.floor.toNat).length := by
  rw [places, List.mem_map]
  constructor
  · rintro ⟨i, hi, rfl⟩
    have hlt := List.mem_range.1 hi
    omega
  · rintro ⟨hleast, hgreatest⟩
    exact ⟨((digits b.value.floor.toNat).length - p).toNat, List.mem_range.2 (by omega), by omega⟩

/-- Higher places come first. -/
theorem places_pairwise (b : Binary64) : b.places.Pairwise (· > ·) := by
  refine List.Pairwise.map _ (fun i j (hlt : i < j) => ?_) List.pairwise_lt_range
  show (_ : Int) - j < _ - i
  omega

/-- A value is less than ten to the power of the number of digits of its whole part. -/
theorem value_lt_pow (b : Binary64) : b.value < 10 ^ (digits b.value.floor.toNat).length := by
  obtain ⟨_, habove⟩ := floor_to_nat_bounds b.value_nonneg
  have hlt : b.value.floor.toNat + 1 ≤ 10 ^ (digits b.value.floor.toNat).length :=
    lt_pow_length_digits _
  have hcast : ((b.value.floor.toNat + 1 : Nat) : Rat) ≤
      (10 ^ (digits b.value.floor.toNat).length : Nat) := Nat.cast_le.2 hlt
  push_cast at hcast
  linarith

/-- No decimal that ends above the first place of the search rounds to the value. -/
theorem le_length_of_holds (hpos : 0 < b.significand) (h : b.holds (k * 10 ^ p) = true) :
    p ≤ (digits b.value.floor.toNat).length := by
  by_contra hlt
  obtain ⟨hlower, hupper, _⟩ := holds_iff.1 h
  have hlowerPos := lower_pos hpos
  have hvalue := b.value_lt_pow
  have hspacing : (1 : Nat) * b.spacing ≤ b.value := mul_spacing_le hpos
  have hk : ((1 : Nat) : Rat) ≤ k := by
    refine Nat.cast_le.2 (Nat.pos_of_ne_zero ?_)
    rintro rfl
    rw [Nat.cast_zero, zero_mul] at hlower
    linarith
  have hunit : (10 : Rat) ^ (digits b.value.floor.toNat).length * 10 ≤ 10 ^ p := by
    rw [← pow_succ, ← zpow_natCast]
    exact zpow_le_zpow_right₀ (by norm_num) (by omega)
  have hmul := mul_le_mul_of_nonneg_right hk (unit_pos p).le
  rw [upper_eq] at hupper
  rw [Nat.cast_one, one_mul] at hmul hspacing
  linarith

/-- The next smaller value is at least as far away as the least value is from zero. -/
theorem IsCanonical.le_spacing_below (hb : b.IsCanonical) :
    2 ^ (-1074 : Int) ≤ b.spacingBelow := by
  have hleast := hb.exponent_ge
  unfold spacingBelow
  split
  · rw [le_div_iff₀ (by norm_num), ← zpow_add_one₀ (by norm_num)]
    exact zpow_le_zpow_right₀ (by norm_num) (by omega)
  · exact zpow_le_zpow_right₀ (by norm_num) hleast

/-- The last place of the search is low enough for every value. -/
theorem IsCanonical.holds_below (hb : b.IsCanonical) :
    b.holds (b.below (-324) * 10 ^ (-324 : Int)) = true := by
  obtain ⟨hle, hlt⟩ := b.below_spec (-324)
  have hpow : (2 : Nat) ^ 1075 ≤ 10 ^ 324 := by decide +kernel
  have hunit : (10 : Rat) ^ (-324 : Int) ≤ 2 ^ (-1075 : Int) := by
    have hcast : ((2 ^ 1075 : Nat) : Rat) ≤ (10 ^ 324 : Nat) := Nat.cast_le.2 hpow
    rw [Nat.cast_pow, Nat.cast_pow] at hcast
    rw [zpow_neg, zpow_neg]
    exact inv_anti₀ (by positivity) hcast
  have hhalf : (2 : Rat) ^ (-1075 : Int) = 2 ^ (-1074 : Int) / 2 := by
    rw [div_eq_mul_inv, ← zpow_sub_one₀ (by norm_num)]
    rfl
  have hspacing := hb.le_spacing_below
  have hpos := b.spacing_pos
  rw [holds_iff, lower_eq, upper_eq]
  refine ⟨by linarith, by linarith, ?_⟩
  rintro (h | h)
  · linarith
  · linarith

/-- The search finds a decimal. -/
theorem IsCanonical.exists_shortest? (hb : b.IsCanonical) : ∃ d, b.shortest? = some d := by
  have hplace : (-324 : Int) ∈ b.places := mem_places.2 ⟨le_refl _, by omega⟩
  refine Option.ne_none_iff_exists'.1 fun hnone => ?_
  exact at_place?_ne_none hb.holds_below (List.findSome?_eq_none_iff.1 hnone _ hplace)

section Search

variable (hb : b.IsCanonical) (hpos : 0 < b.significand)
include hb hpos

/-- The search finds the shortest decimal. -/
theorem IsCanonical.is_shortest_of_shortest? (h : b.shortest? = some d) : b.IsShortest d := by
  obtain ⟨higher, p, lower, hsplit, hfound, hnone⟩ := List.findSome?_eq_some_iff.1 h
  obtain ⟨hplace, hclosest⟩ := hb.is_closest_of_at_place? hpos hfound
  refine ⟨hclosest, fun other hother => ?_⟩
  rw [hb.is_nearest_iff hpos other.value_nonneg] at hother
  by_contra hlt
  -- a place above the one where the search ended was tried before
  have hsorted := b.places_pairwise
  have hp : p ∈ b.places := by
    rw [hsplit]
    exact List.mem_append_right _ List.mem_cons_self
  have hmem : other.place ∈ b.places :=
    mem_places.2 ⟨by have := (mem_places.1 hp).1; omega, le_length_of_holds hpos hother⟩
  rw [hsplit] at hsorted hmem
  rcases List.mem_append.1 hmem with hmem | hmem
  · exact at_place?_ne_none hother (hnone _ hmem)
  · rcases List.mem_cons.1 hmem with heq | hmem
    · omega
    · have hless := (List.pairwise_cons.1 (List.pairwise_append.1 hsorted).2.1).1 _ hmem
      omega

/-- The search finds the shortest decimal of every value other than zero. -/
theorem IsCanonical.shortest?_eq_some_iff : b.shortest? = some d ↔ b.IsShortest d := by
  refine ⟨hb.is_shortest_of_shortest? hpos, fun h => ?_⟩
  obtain ⟨found, hfound⟩ := hb.exists_shortest?
  rw [hfound, (hb.is_shortest_of_shortest? hpos hfound).unique h]

end Search

/-! ### Whole numbers -/

/-- A small value has a small exponent. -/
theorem IsCanonical.exponent_le_of_value_lt {e : Int} (hb : b.IsCanonical) (he : -1074 ≤ e)
    (h : b.value < 2 ^ 52 * 2 ^ (e + 1)) : b.exponent ≤ e := by
  by_contra hlt
  have hnormal : 2 ^ 52 ≤ b.significand := hb.normal.resolve_left (by omega)
  have hmul : (2 ^ 52 : Nat) * b.spacing ≤ b.value := mul_spacing_le hnormal
  have hspacing : (2 : Rat) ^ (e + 1) ≤ b.spacing :=
    zpow_le_zpow_right₀ (by norm_num) (by omega)
  push_cast at hmul
  linarith

/-- A number that rounds to a value is no farther from it than half a spacing. -/
theorem distance_le_of_holds {x : Rat} (h : b.holds x = true) :
    |x - b.value| ≤ b.spacing / 2 := by
  obtain ⟨hlower, hupper, _⟩ := holds_iff.1 h
  have hbelow := b.spacing_below_le
  rw [lower_eq] at hlower
  rw [upper_eq] at hupper
  exact abs_le.2 ⟨by linarith, by linarith⟩

/-- A value that is a whole number is its own shortest decimal, without the zeros at its end, if no
other multiple of ten rounds to it. -/
theorem IsCanonical.is_shortest_of_value_eq {c : Nat} (hb : b.IsCanonical)
    (hpos : 0 < b.significand) (hvalue : b.value = c * 10 ^ k) (hlast : c % 10 ≠ 0)
    (hmultiple : ∀ j : Nat, b.holds (10 * j : Nat) = true → ((10 * j : Nat) : Rat) = b.value) :
    b.IsShortest ⟨c, k⟩ := by
  have hsame : Scaled.value ⟨c, k⟩ = b.value := by
    rw [hvalue, Scaled.value, zpow_natCast]
  have hunit : (10 : Rat) ^ k ≠ 0 := by positivity
  refine ⟨hb.is_closest hpos ?_ fun j _ => ?_, fun other hother => ?_⟩
  · rw [hsame]
    exact b.holds_value
  · rw [hsame, sub_self, abs_zero]
    refine ⟨abs_nonneg _, fun hzero => ?_⟩
    have heq : (c : Rat) * 10 ^ k = j * 10 ^ k := by
      rw [← hvalue, ← zpow_natCast]
      exact sub_eq_zero.1 (abs_eq_zero.1 hzero)
    exact (Nat.cast_injective (mul_right_cancel₀ hunit heq)).ge
  · rw [hb.is_nearest_iff hpos other.value_nonneg] at hother
    by_contra hlt
    -- a decimal that ends at a higher place is a multiple of ten
    obtain ⟨j, hj⟩ : ∃ j : Nat, other.place = k + 1 + j :=
      ⟨(other.place - k - 1).toNat, by
        have hless : (k : Int) < other.place := not_le.1 hlt
        omega⟩
    have htens : other.value = (10 * (other.coefficient * 10 ^ (k + j)) : Nat) := by
      rw [Scaled.value, hj]
      push_cast
      rw [← Nat.cast_succ, ← Nat.cast_add, zpow_natCast, pow_add, pow_succ, pow_add]
      ring
    rw [htens] at hother
    have heq := hmultiple _ hother
    rw [hvalue] at heq
    have hcoefficient : other.coefficient * 10 ^ j * 10 = c := by
      refine Nat.cast_injective (R := Rat) (mul_right_cancel₀ hunit ?_)
      rw [← heq]
      push_cast
      rw [pow_add]
      ring
    omega

/-- Whole numbers up to `2 ^ 53` are values, which are no more than one apart below it. -/
theorem exists_value_eq {m : Nat} (hle : m ≤ 2 ^ 53) :
    ∃ b : Binary64, b.IsCanonical ∧ b.value = m ∧
      (b.spacing ≤ 1 ∨ m = 2 ^ 53 ∧ b.spacing ≤ 2) := by
  rcases hle.lt_or_eq with hlt | heq
  · obtain ⟨b, hb, hvalue⟩ := exists_canonical (e := 0) hlt (by norm_num) (by norm_num)
    rw [zpow_zero, mul_one] at hvalue
    have hexponent : b.exponent ≤ 0 := by
      have hcast : (m : Rat) < (2 ^ 53 : Nat) := Nat.cast_lt.2 hlt
      refine hb.exponent_le_of_value_lt (by norm_num) ?_
      rw [hvalue]
      exact hcast.trans_eq (by norm_num)
    exact ⟨b, hb, hvalue, Or.inl (zpow_le_one_of_nonpos₀ (by norm_num) hexponent)⟩
  · obtain ⟨b, hb, hvalue⟩ :=
      exists_canonical (m := 1) (e := 53) (by norm_num) (by norm_num) (by norm_num)
    have hvalue : b.value = (2 ^ 53 : Nat) := by
      rw [hvalue]
      norm_num
    have hexponent : b.exponent ≤ 1 := by
      refine hb.exponent_le_of_value_lt (by norm_num) ?_
      rw [hvalue]
      norm_num
    have hspacing : b.spacing ≤ 2 ^ (1 : Int) := zpow_le_zpow_right₀ (by norm_num) hexponent
    rw [zpow_one] at hspacing
    exact ⟨b, hb, by rw [hvalue, heq], Or.inr ⟨heq, hspacing⟩⟩

/-- Up to `2 ^ 53`, every whole number is its own shortest decimal, without the zeros at its
end. -/
theorem exists_shortest_of_le {m : Nat} (hm : 0 < m) (hle : m ≤ 2 ^ 53) :
    ∃ b : Binary64, ∃ c k : Nat, 0 < b.significand ∧ b.IsShortest ⟨c, k⟩ ∧ 0 < c ∧
      m = c * 10 ^ k := by
  obtain ⟨b, hb, hvalue, hspacing⟩ := exists_value_eq hle
  obtain ⟨k, c, hlast, hsplit⟩ := Nat.exists_eq_pow_mul_and_not_dvd hm.ne' 10 (by norm_num)
  have hpos : 0 < b.significand := by
    refine Nat.pos_of_ne_zero fun hzero => ?_
    rw [value_eq, hzero, Nat.cast_zero, zero_mul] at hvalue
    exact hm.ne (Nat.cast_injective hvalue)
  have hproduct : b.value = c * 10 ^ k := by
    rw [hvalue, hsplit]
    push_cast
    ring
  refine ⟨b, c, k, hpos, hb.is_shortest_of_value_eq hpos hproduct (by omega) fun j hj => ?_,
    by omega, by rw [hsplit, Nat.mul_comm]⟩
  have hdistance := distance_le_of_holds hj
  rw [hvalue] at hdistance ⊢
  rcases hspacing with hone | ⟨rfl, htwo⟩
  · -- other whole numbers are too far away
    have hless : |((10 * j : Nat) : Rat) - m| < 1 := by linarith
    have hint : |((10 * j : Nat) : Int) - m| < 1 := by exact_mod_cast hless
    rw [Int.abs_lt_one_iff] at hint
    exact congrArg Nat.cast (by omega)
  · -- the neighbours are one away, and neither is a multiple of ten
    have hhalf : b.spacing / 2 ≤ 1 := by linarith
    have hint : |((10 * j : Nat) : Int) - (2 ^ 53 : Nat)| ≤ 1 := by
      exact_mod_cast hdistance.trans hhalf
    rw [abs_le] at hint
    omega

end Binary64

end MarkupSemantics.Decimal
