/-!
# Binary64 values as exact numbers

A positive finite binary64 value is a significand times a power of two. `nearest?` rounds a
rational number to the nearest such value, a tie going to the even significand, and fails where
the result would be infinite. `Binary64.holds` describes the interval of numbers that round to a
value.
-/

namespace MarkupSemantics.Decimal

/-- A finite binary64 value without its sign. -/
structure Binary64 where
  /-- The significand, below `2 ^ 53`. -/
  significand : Nat
  /-- The power of two that the significand is multiplied by, at least `-1074`. -/
  exponent : Int
  deriving DecidableEq

namespace Binary64

/-- `b.value` is the number that `b` stands for. -/
def value (b : Binary64) : Rat :=
  b.significand * (2 : Rat) ^ b.exponent

/-- `b.lower` is the midpoint between `b` and the next smaller value, which is half as far away
where `b` is a power of two with smaller normal values below it. -/
def lower (b : Binary64) : Rat :=
  if b.significand = Nat.pow 2 52 ∧ -1074 < b.exponent then
    (b.significand - 1 / 4) * (2 : Rat) ^ b.exponent
  else (b.significand - 1 / 2) * (2 : Rat) ^ b.exponent

/-- `b.upper` is the midpoint between `b` and the next greater value. -/
def upper (b : Binary64) : Rat :=
  (b.significand + 1 / 2) * (2 : Rat) ^ b.exponent

/-- `b.holds x` says `x` rounds to `b`: it lies between the midpoints, which belong to `b` when its
significand is even. -/
def holds (b : Binary64) (x : Rat) : Bool :=
  if b.significand % 2 = 0 then b.lower ≤ x && x ≤ b.upper else b.lower < x && x < b.upper

end Binary64

/-- `roundHalfEven x` is the natural number nearest to `x`, the even one of two. -/
def roundHalfEven (x : Rat) : Nat :=
  let below := x.floor.toNat
  let excess := x - below
  if excess < 1 / 2 then below
  else if 1 / 2 < excess then below + 1
  else if below % 2 = 0 then below
  else below + 1

/-- `floorLog2 x` is the greatest exponent of a power of two that is at most `x`. -/
def floorLog2 (x : Rat) : Int :=
  let estimate : Int := (Nat.log2 x.num.natAbs : Int) - Nat.log2 x.den
  if (2 : Rat) ^ estimate ≤ x then estimate else estimate - 1

/-- `nearest? x` is the binary64 value nearest to `x`, which must not be negative. -/
def nearest? (x : Rat) : Option Binary64 :=
  let exponent := max (-1074) (floorLog2 x - 52)
  let significand := roundHalfEven (x / (2 : Rat) ^ exponent)
  let rounded : Binary64 :=
    if significand = Nat.pow 2 53 then ⟨Nat.pow 2 52, exponent + 1⟩ else ⟨significand, exponent⟩
  if rounded.exponent ≤ 971 then some rounded else none

end MarkupSemantics.Decimal
