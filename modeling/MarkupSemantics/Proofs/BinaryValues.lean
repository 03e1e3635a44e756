import Mathlib.Algebra.Order.Field.Power
import Mathlib.Algebra.Order.Field.Rat
import Mathlib.Tactic.FieldSimp
import Mathlib.Tactic.Linarith
import Mathlib.Tactic.NormNum
import Mathlib.Tactic.Positivity
import Mathlib.Tactic.Ring
import MarkupSemantics.Decimal.Binary64

/-!
# Binary64 values and their neighbours

A finite value has one canonical form, and `IsCanonical.apart` says how far away its neighbours are.
`IsNearest b x` says `x` rounds to `b`: no value is nearer to `x`, and of two values as near the one
with the even significand is taken. `IsCanonical.is_nearest` and `IsNearest.eq_of_holds` say that
the numbers in the interval of a value are those that round to it.
-/

namespace MarkupSemantics.Decimal

variable {b c : Binary64} {x y z : Rat}

namespace Binary64

/-- `b.IsCanonical` says `b` is a finite value in its only form: the significand has 53 digits, or
fewer with the least exponent. -/
structure IsCanonical (b : Binary64) : Prop where
  /-- The significand has at most 53 digits. -/
  significand_lt : b.significand < 2 ^ 53
  /-- The exponent is not too small. -/
  exponent_ge : -1074 ≤ b.exponent
  /-- The exponent is not too great. -/
  exponent_le : b.exponent ≤ 971
  /-- The significand has no fewer than 53 digits, unless the exponent cannot be smaller. -/
  normal : b.exponent = -1074 ∨ 2 ^ 52 ≤ b.significand

/-- The midpoint between the greatest finite value and what would follow it, which is the least
number that rounds to infinity. -/
def overflow : Rat :=
  (2 ^ 53 - 1 / 2) * 2 ^ (971 : Int)

/-- `b.IsNearest x` says `b` is the value that the number `x` rounds to: `x` is not so large as to
round to infinity, no other value is nearer to `x`, and if another one is as near, the significand
of `b` is even. -/
structure IsNearest (b : Binary64) (x : Rat) : Prop where
  /-- The value is a finite one. -/
  canonical : b.IsCanonical
  /-- The number does not round to infinity. -/
  finite : x < overflow
  /-- No other value is nearer. -/
  nearest : ∀ c : Binary64, c.IsCanonical → |x - b.value| ≤ |x - c.value|
  /-- A tie goes to the even significand. -/
  even : ∀ c : Binary64, c.IsCanonical → c ≠ b → |x - c.value| = |x - b.value| →
    b.significand % 2 = 0

/-- `b.spacing` is the distance from `b` to the next greater value. -/
def spacing (b : Binary64) : Rat :=
  2 ^ b.exponent

/-- `b.spacingBelow` is the distance from `b` to the next smaller value. -/
def spacingBelow (b : Binary64) : Rat :=
  if b.significand = 2 ^ 52 ∧ -1074 < b.exponent then b.spacing / 2 else b.spacing

/-! ### Values and their neighbours -/

/-- A value is a whole number of spacings. -/
theorem value_eq (b : Binary64) : b.value = b.significand * b.spacing := rfl

/-- The next greater value is at some distance. -/
theorem spacing_pos (b : Binary64) : 0 < b.spacing :=
  zpow_pos (by norm_num) b.exponent

/-- The next smaller value is at some distance. -/
theorem spacing_below_pos (b : Binary64) : 0 < b.spacingBelow := by
  have hpos := b.spacing_pos
  unfold spacingBelow
  split
  · linarith
  · exact hpos

/-- The next smaller value is no farther away than the next greater one. -/
theorem spacing_below_le (b : Binary64) : b.spacingBelow ≤ b.spacing := by
  have hpos := b.spacing_pos
  unfold spacingBelow
  split
  · linarith
  · exact le_refl _

/-- The interval of a value ends halfway to the next greater value. -/
theorem upper_eq (b : Binary64) : b.upper = b.value + b.spacing / 2 := by
  show (b.significand + 1 / 2) * b.spacing = b.significand * b.spacing + b.spacing / 2
  ring

/-- The interval of a value begins halfway to the next smaller value. -/
theorem lower_eq (b : Binary64) : b.lower = b.value - b.spacingBelow / 2 := by
  have hpow : Nat.pow 2 52 = 2 ^ 52 := rfl
  unfold lower spacingBelow
  rw [hpow]
  split
  · show (b.significand - 1 / 4) * b.spacing = b.significand * b.spacing - b.spacing / 2 / 2
    ring
  · show (b.significand - 1 / 2) * b.spacing = b.significand * b.spacing - b.spacing / 2
    ring

/-- No value is negative. -/
theorem value_nonneg (b : Binary64) : 0 ≤ b.value :=
  mul_nonneg (Nat.cast_nonneg _) b.spacing_pos.le

/-- As many spacings as the significand says, or fewer, are at most the value. -/
theorem mul_spacing_le {k : Nat} (h : k ≤ b.significand) : k * b.spacing ≤ b.value :=
  mul_le_mul_of_nonneg_right (Nat.cast_le.2 h) b.spacing_pos.le

/-- As many spacings as the significand says, or more, are at least the value. -/
theorem value_le_mul_spacing {k : Nat} (h : b.significand ≤ k) : b.value ≤ k * b.spacing :=
  mul_le_mul_of_nonneg_right (Nat.cast_le.2 h) b.spacing_pos.le

/-- A value with a greater exponent is a multiple of the spacing. -/
theorem exists_value_eq_mul (h : b.exponent ≤ c.exponent) :
    ∃ k : Nat, c.value = k * b.spacing := by
  refine ⟨c.significand * 2 ^ (c.exponent - b.exponent).toNat, ?_⟩
  have hsplit : (2 : Rat) ^ c.exponent =
      2 ^ (c.exponent - b.exponent).toNat * 2 ^ b.exponent := by
    rw [← zpow_natCast, ← zpow_add₀ (by norm_num), Int.toNat_of_nonneg (by omega), sub_add_cancel]
  show (c.significand : Rat) * 2 ^ c.exponent = _ * 2 ^ b.exponent
  rw [hsplit]
  push_cast
  ring

/-- A value with a smaller exponent lies below all that have 53 digits. -/
theorem IsCanonical.value_le_of_exponent_lt (hc : c.IsCanonical) (h : c.exponent < b.exponent) :
    c.value ≤ (2 ^ 52 - 1 / 2) * b.spacing := by
  have hlt := hc.significand_lt
  have hvalue : c.value ≤ (2 ^ 53 - 1 : Nat) * c.spacing := value_le_mul_spacing (by omega)
  have hspacing : c.spacing ≤ b.spacing / 2 := by
    have hle : (2 : Rat) ^ c.exponent ≤ 2 ^ (b.exponent - 1) :=
      zpow_le_zpow_right₀ (by norm_num) (by omega)
    rwa [zpow_sub_one₀ (by norm_num), ← div_eq_mul_inv] at hle
  calc c.value ≤ (2 ^ 53 - 1 : Nat) * c.spacing := hvalue
    _ ≤ (2 ^ 53 - 1 : Nat) * (b.spacing / 2) := by gcongr
    _ = (2 ^ 52 - 1 / 2) * b.spacing := by
        norm_num
        ring

/-- Other values are at least as far away as the neighbours on either side. -/
theorem IsCanonical.apart (hb : b.IsCanonical) (hc : c.IsCanonical) (h : c.value ≠ b.value) :
    c.value ≤ b.value - b.spacingBelow ∨ b.value + b.spacing ≤ c.value := by
  have hpos := b.spacing_pos
  have hbelow := b.spacing_below_le
  rcases lt_or_ge c.exponent b.exponent with hexp | hexp
  · -- the other value has smaller units, so it lies below
    left
    have hle := hc.value_le_of_exponent_lt hexp
    have hleast := hc.exponent_ge
    have hnormal : 2 ^ 52 ≤ b.significand := hb.normal.resolve_left (by omega)
    rcases hnormal.eq_or_lt with heq | hlt
    · have hhalf : b.spacingBelow = b.spacing / 2 := if_pos ⟨heq.symm, by omega⟩
      rw [hhalf, value_eq b, ← heq]
      push_cast
      linarith
    · have hmul : (2 ^ 52 + 1 : Nat) * b.spacing ≤ b.value := mul_spacing_le hlt
      push_cast at hmul
      linarith
  · -- the other value is a multiple of the spacing
    obtain ⟨k, hk⟩ := exists_value_eq_mul hexp
    have hne : k ≠ b.significand := by
      rintro rfl
      exact h hk
    rw [hk]
    rcases lt_or_gt_of_ne hne with hlt | hlt
    · left
      have hmul : (k + 1 : Nat) * b.spacing ≤ b.value := mul_spacing_le hlt
      push_cast at hmul
      linarith
    · right
      have hcast : ((b.significand + 1 : Nat) : Rat) ≤ k := Nat.cast_le.2 hlt
      push_cast at hcast
      have hmul := mul_le_mul_of_nonneg_right hcast hpos.le
      rw [value_eq b]
      linarith

/-- A value has one canonical form. -/
theorem IsCanonical.eq_of_value_eq (hb : b.IsCanonical) (hc : c.IsCanonical)
    (h : b.value = c.value) : b = c := by
  have hexp : ∀ {b c : Binary64}, b.IsCanonical → c.IsCanonical → b.value = c.value →
      ¬c.exponent < b.exponent := by
    intro b c hb hc h hlt
    have hle := hc.value_le_of_exponent_lt hlt
    have hleast := hc.exponent_ge
    have hnormal : 2 ^ 52 ≤ b.significand := hb.normal.resolve_left (by omega)
    have hpos := b.spacing_pos
    have hmul : (2 ^ 52 : Nat) * b.spacing ≤ b.value := mul_spacing_le hnormal
    rw [h] at hmul
    push_cast at hmul
    linarith
  have hsame : b.exponent = c.exponent :=
    le_antisymm (not_lt.1 (hexp hb hc h)) (not_lt.1 (hexp hc hb h.symm))
  have hspacing : b.spacing = c.spacing := congrArg (fun e : Int => (2 : Rat) ^ e) hsame
  rw [value_eq, value_eq, hspacing] at h
  have hsignificand : b.significand = c.significand :=
    Nat.cast_injective (mul_right_cancel₀ c.spacing_pos.ne' h)
  cases b
  cases c
  cases hsame
  cases hsignificand
  rfl

/-- A whole number of powers of two with no more than 53 digits is a value. -/
theorem exists_canonical {m : Nat} {e : Int} (hlt : m < 2 ^ 53) (hleast : -1074 ≤ e)
    (hgreatest : e ≤ 971) : ∃ b : Binary64, b.IsCanonical ∧ b.value = m * 2 ^ e := by
  obtain ⟨k, hk⟩ : ∃ k : Nat, e = -1074 + k := ⟨(e + 1074).toNat, by omega⟩
  induction k generalizing m e with
  | zero =>
      exact ⟨⟨m, e⟩, ⟨hlt, hleast, hgreatest, Or.inl (by show e = -1074; omega)⟩, rfl⟩
  | succ k ih =>
      by_cases hnormal : 2 ^ 52 ≤ m
      · exact ⟨⟨m, e⟩, ⟨hlt, hleast, hgreatest, Or.inr hnormal⟩, rfl⟩
      · -- one more digit of the significand for one less of the exponent
        obtain ⟨b, hb, hvalue⟩ := ih (m := 2 * m) (e := e - 1) (by omega) (by omega) (by omega)
          (by omega)
        refine ⟨b, hb, ?_⟩
        rw [hvalue, zpow_sub_one₀ (by norm_num)]
        push_cast
        ring

/-! ### The interval of a value -/

/-- A value holds the numbers between the ends of its interval, and the ends if its significand is
even. -/
theorem holds_iff : b.holds x = true ↔
    b.lower ≤ x ∧ x ≤ b.upper ∧ (x = b.lower ∨ x = b.upper → b.significand % 2 = 0) := by
  rw [holds]
  split
  · rename_i heven
    simp [heven]
  · rename_i hodd
    simp only [Bool.and_eq_true, decide_eq_true_eq, hodd, imp_false, not_or]
    constructor
    · rintro ⟨hlower, hupper⟩
      exact ⟨hlower.le, hupper.le, hlower.ne', hupper.ne⟩
    · rintro ⟨hlower, hupper, hneLower, hneUpper⟩
      exact ⟨lt_of_le_of_ne hlower (Ne.symm hneLower), lt_of_le_of_ne hupper hneUpper⟩

/-- A value holds itself. -/
theorem holds_value (b : Binary64) : b.holds b.value = true := by
  have hpos := b.spacing_pos
  have hbelow := b.spacing_below_pos
  rw [holds_iff, lower_eq, upper_eq]
  refine ⟨by linarith, by linarith, ?_⟩
  rintro (h | h)
  · linarith
  · linarith

/-- The interval of a value has no gaps. -/
theorem holds_of_between (hx : b.holds x = true) (hz : b.holds z = true) (hxy : x ≤ y)
    (hyz : y ≤ z) : b.holds y = true := by
  obtain ⟨hlower, _, hlowerEven⟩ := holds_iff.1 hx
  obtain ⟨_, hupper, hupperEven⟩ := holds_iff.1 hz
  refine holds_iff.2 ⟨le_trans hlower hxy, le_trans hyz hupper, ?_⟩
  rintro (rfl | rfl)
  · exact hlowerEven (Or.inl (le_antisymm hxy hlower))
  · exact hupperEven (Or.inr (le_antisymm hupper hyz))

/-- The interval of a value other than zero lies above zero. -/
theorem lower_pos (h : 0 < b.significand) : 0 < b.lower := by
  have hpos := b.spacing_pos
  have hbelow := b.spacing_below_le
  have hmul : (1 : Nat) * b.spacing ≤ b.value := mul_spacing_le h
  push_cast at hmul
  rw [lower_eq]
  linarith

/-- The interval of a value with 53 digits does not reach down by more than a quarter of the
spacing of the least such value. -/
theorem le_lower_of_normal (hleast : -1074 < b.exponent) (hnormal : 2 ^ 52 ≤ b.significand) :
    (2 ^ 52 - 1 / 4) * b.spacing ≤ b.lower := by
  have hpos := b.spacing_pos
  rw [lower_eq]
  rcases hnormal.eq_or_lt with heq | hlt
  · have hhalf : b.spacingBelow = b.spacing / 2 := if_pos ⟨heq.symm, hleast⟩
    rw [hhalf, value_eq, ← heq]
    push_cast
    linarith
  · have hbelow := b.spacing_below_le
    have hmul : (2 ^ 52 + 1 : Nat) * b.spacing ≤ b.value := mul_spacing_le hlt
    push_cast at hmul
    linarith

/-- A number in the interval of a value does not round to infinity. -/
theorem IsCanonical.lt_overflow (hb : b.IsCanonical) (h : b.holds x = true) : x < overflow := by
  obtain ⟨_, hupper, heven⟩ := holds_iff.1 h
  rw [upper_eq] at hupper heven
  have hpos := b.spacing_pos
  have hspacing : b.spacing ≤ 2 ^ (971 : Int) :=
    zpow_le_zpow_right₀ (by norm_num) hb.exponent_le
  have hbound : (2 ^ 53 - 1 / 2) * b.spacing ≤ overflow :=
    mul_le_mul_of_nonneg_left hspacing (by norm_num)
  have hlt := hb.significand_lt
  by_cases hmod : b.significand % 2 = 0
  · have hmul : b.value ≤ (2 ^ 53 - 2 : Nat) * b.spacing := value_le_mul_spacing (by omega)
    norm_num at hmul
    linarith
  · -- the greatest significand is odd, and the end of its interval does not belong to it
    have hne : x ≠ b.value + b.spacing / 2 := fun heq => hmod (heven (Or.inr heq))
    have hless : x < b.value + b.spacing / 2 := lt_of_le_of_ne hupper hne
    have hmul : b.value ≤ (2 ^ 53 - 1 : Nat) * b.spacing := value_le_mul_spacing (by omega)
    norm_num at hmul
    linarith

/-- `b.IsNeighbour c` says `c` is the next value below `b` or the next one above it. -/
def IsNeighbour (b c : Binary64) : Prop :=
  c.value = b.value - b.spacingBelow ∨ c.value = b.value + b.spacing

/-- Of a number in the interval of a value, other values are farther away, unless the number is an
end of the interval and the other value is the neighbour there. -/
theorem IsCanonical.nearer_or_neighbour (hb : b.IsCanonical) (hc : c.IsCanonical)
    (h : b.holds x = true) (hne : c.value ≠ b.value) :
    |x - b.value| < |x - c.value| ∨
      |x - b.value| = |x - c.value| ∧ b.significand % 2 = 0 ∧ b.IsNeighbour c := by
  obtain ⟨hlower, hupper, heven⟩ := holds_iff.1 h
  rw [lower_eq] at hlower heven
  rw [upper_eq] at hupper heven
  have hpos := b.spacing_pos
  have hbelow := b.spacing_below_pos
  have hle := b.spacing_below_le
  rcases hb.apart hc hne with hside | hside
  · have hother : |x - c.value| = x - c.value := abs_of_pos (by linarith)
    have hnear : |x - b.value| ≤ x - c.value := abs_le.2 ⟨by linarith, by linarith⟩
    rw [hother]
    rcases hnear.lt_or_eq with hlt | heq
    · exact Or.inl hlt
    · have hneg : x - b.value < 0 := by
        by_contra hnonneg
        rw [abs_of_nonneg (not_lt.1 hnonneg)] at heq
        linarith
      rw [abs_of_neg hneg] at heq ⊢
      exact Or.inr ⟨heq, heven (Or.inl (by linarith)), Or.inl (by linarith)⟩
  · have hother : |x - c.value| = c.value - x := by
      rw [abs_sub_comm]
      exact abs_of_pos (by linarith)
    have hnear : |x - b.value| ≤ c.value - x := abs_le.2 ⟨by linarith, by linarith⟩
    rw [hother]
    rcases hnear.lt_or_eq with hlt | heq
    · exact Or.inl hlt
    · have hnonneg : 0 ≤ x - b.value := by
        by_contra hneg
        rw [abs_of_neg (not_le.1 hneg)] at heq
        linarith
      rw [abs_of_nonneg hnonneg] at heq ⊢
      exact Or.inr ⟨heq, heven (Or.inr (by linarith)), Or.inr (by linarith)⟩

/-- A number in the interval of a value rounds to the value. -/
theorem IsCanonical.is_nearest (hb : b.IsCanonical) (h : b.holds x = true) : b.IsNearest x where
  canonical := hb
  finite := hb.lt_overflow h
  nearest c hc := by
    by_cases hne : c.value = b.value
    · rw [hne]
    · rcases hb.nearer_or_neighbour hc h hne with hlt | ⟨heq, _⟩
      · exact hlt.le
      · exact heq.le
  even c hc hne htie := by
    have hvalue : c.value ≠ b.value := fun heq => hne (hc.eq_of_value_eq hb heq)
    rcases hb.nearer_or_neighbour hc h hvalue with hlt | ⟨_, heven, _⟩
    · exact absurd htie hlt.ne'
    · exact heven

/-- The significand of a value is read off any canonical form of it. -/
theorem IsCanonical.significand_eq {k : Nat} {e : Int} (hc : c.IsCanonical)
    (hform : IsCanonical ⟨k, e⟩) (h : c.value = k * 2 ^ e) : c.significand = k :=
  congrArg significand (hc.eq_of_value_eq hform h)

/-- The neighbours of a value with an even significand have odd significands. -/
theorem IsCanonical.odd_of_is_neighbour (hb : b.IsCanonical) (hc : c.IsCanonical)
    (heven : b.significand % 2 = 0) (h : b.IsNeighbour c) : c.significand % 2 = 1 := by
  obtain ⟨hlt, hleast, hgreatest, hnormal⟩ := hb
  have hpos := b.spacing_pos
  rcases h with h | h
  · by_cases hpower : b.significand = 2 ^ 52 ∧ -1074 < b.exponent
    · -- below a power of two the significand is as great as it can be
      have hform : IsCanonical ⟨2 ^ 53 - 1, b.exponent - 1⟩ :=
        ⟨by norm_num, by show -1074 ≤ b.exponent - 1; omega, by show b.exponent - 1 ≤ 971; omega,
          Or.inr (by norm_num)⟩
      have hhalf : (2 : Rat) ^ (b.exponent - 1) = b.spacing / 2 := by
        rw [zpow_sub_one₀ (by norm_num), div_eq_mul_inv]
        rfl
      have hodd := hc.significand_eq hform (by
        rw [h, spacingBelow, if_pos hpower, value_eq, hpower.1, hhalf]
        norm_num
        ring)
      omega
    · have hbelow : b.spacingBelow = b.spacing := if_neg hpower
      rw [hbelow, value_eq b] at h
      obtain ⟨k, hk⟩ : ∃ k, b.significand = k + 1 := by
        refine Nat.exists_eq_succ_of_ne_zero fun hzero => ?_
        have hnonneg := c.value_nonneg
        rw [hzero, Nat.cast_zero, zero_mul, zero_sub] at h
        linarith
      have hform : IsCanonical ⟨k, b.exponent⟩ :=
        ⟨by show k < 2 ^ 53; omega, hleast, hgreatest,
          by show b.exponent = -1074 ∨ 2 ^ 52 ≤ k; omega⟩
      have hodd := hc.significand_eq hform (by
        rw [h, hk, spacing]
        push_cast
        ring)
      omega
  · have hform : IsCanonical ⟨b.significand + 1, b.exponent⟩ :=
      ⟨by show b.significand + 1 < 2 ^ 53; omega, hleast, hgreatest,
        by show b.exponent = -1074 ∨ 2 ^ 52 ≤ b.significand + 1; omega⟩
    have hodd := hc.significand_eq hform (by
      rw [h, value_eq, spacing]
      push_cast
      ring)
    omega

/-- A number in the interval of a value rounds to no other value. -/
theorem IsNearest.eq_of_holds (hc : c.IsNearest x) (hb : b.IsCanonical) (h : b.holds x = true) :
    c = b := by
  by_contra hne
  have hvalue : c.value ≠ b.value := fun heq => hne (hc.canonical.eq_of_value_eq hb heq)
  rcases hb.nearer_or_neighbour hc.canonical h hvalue with hlt | ⟨heq, heven, hneighbour⟩
  · exact absurd (hc.nearest b hb) (not_le.2 hlt)
  · have hodd := hb.odd_of_is_neighbour hc.canonical heven hneighbour
    have hother := hc.even b hb (Ne.symm hne) heq
    omega

end Binary64

end MarkupSemantics.Decimal
