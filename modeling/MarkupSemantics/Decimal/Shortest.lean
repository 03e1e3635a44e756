import MarkupSemantics.Decimal.Binary64
import MarkupSemantics.Decimal.Integer
import MarkupSemantics.Text.Split

/-!
# Canonical numbers

The shortest decimal text of a binary64 value: of the decimals that round to the value, those with
the fewest digits, and of these the nearest to the value, the greater of two. It is written in
positional notation without an exponent. `isCanonicalNumber` accepts a text that is the shortest
text of the value it rounds to; zero is written without a sign.
-/

namespace MarkupSemantics.Decimal

/-- A natural number of units of the decimal place `place`. -/
structure Scaled where
  /-- The number of units. -/
  coefficient : Nat
  /-- The power of ten that is the unit. -/
  place : Int
  deriving DecidableEq

namespace Binary64

/-- `b.atPlace? place` is the decimal nearest to `b` among those that end at `place` and round to
`b`; only the two neighbours of `b` on that grid can be nearest. -/
def atPlace? (b : Binary64) (place : Int) : Option Scaled :=
  let unit := (10 : Rat) ^ place
  let below := (b.value / unit).floor.toNat
  let floor := below * unit
  let ceiling := (below + 1) * unit
  match b.holds floor, b.holds ceiling with
  | true, true => some ⟨if b.value - floor < ceiling - b.value then below else below + 1, place⟩
  | true, false => some ⟨below, place⟩
  | false, true => some ⟨below + 1, place⟩
  | false, false => none

/-- `b.places` lists the decimal places at which the shortest decimal of `b` may end, from the one
above its first digit down to the last that any value needs. -/
def places (b : Binary64) : List Int :=
  let first := (digits b.value.floor.toNat).length
  (List.range (first + 325)).map fun (i : Nat) => (first : Int) - i

/-- `b.shortest?` is the shortest decimal that rounds to `b`. -/
def shortest? (b : Binary64) : Option Scaled :=
  b.places.findSome? b.atPlace?

end Binary64

/-- `decimal.text` is `decimal` in positional notation. -/
def Scaled.text (decimal : Scaled) : List Char :=
  let written := digits decimal.coefficient
  if 0 ≤ decimal.place then written ++ List.replicate decimal.place.toNat '0'
  else
    let fraction := (-decimal.place).toNat
    let padded := List.replicate (fraction + 1 - written.length) '0' ++ written
    padded.take (padded.length - fraction) ++ '.' :: padded.drop (padded.length - fraction)

/-- `positional? cs` is the number that `cs` writes, if it is digits, or digits with a point
between them. A number in another form, with an exponent or without digits on one side of the point,
is never the shortest text of a value and need not be read. -/
def positional? (cs : List Char) : Option Rat :=
  match Text.splitFirst '.' cs with
  | none => (natural? cs).map fun (n : Nat) => (n : Rat)
  | some (whole, fraction) => do
    let _ ← natural? whole
    let _ ← natural? fraction
    return (digitsValue (whole ++ fraction) : Rat) / (10 : Rat) ^ fraction.length

/-- `unsignedText x` is the shortest text of the binary64 value nearest to `x`. -/
def unsignedText? (x : Rat) : Option (List Char) := do
  let rounded ← nearest? x
  if rounded.significand = 0 then return ['0']
  let shortest ← rounded.shortest?
  return shortest.text

/-- `isCanonicalNumber cs` says `cs` is the shortest text of a finite binary64 value. -/
def isCanonicalNumber (cs : List Char) : Bool :=
  match cs with
  | '-' :: unsigned =>
    match (positional? unsigned).bind unsignedText? with
    | some text => text == unsigned && unsigned != ['0']
    | none => false
  | _ =>
    match (positional? cs).bind unsignedText? with
    | some text => text == cs
    | none => false

end MarkupSemantics.Decimal
