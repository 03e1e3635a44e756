/-!
# Canonical integers

The decimal text of an integer: an optional minus sign and digits without leading zeros.
`isCanonicalInteger` accepts a text that reads as a signed 64-bit integer and is that integer's
decimal text.
-/

namespace MarkupSemantics.Decimal

/-- `digit d` is the decimal digit of value `d`. -/
def digit (d : Nat) : Char :=
  Char.ofNat ('0'.toNat + d)

/-- `digits n` is the decimal text of `n`. -/
def digits (n : Nat) : List Char :=
  if n < 10 then [digit n] else digits (n / 10) ++ [digit (n % 10)]
termination_by n

/-- `digitsValue cs` is the number that the decimal digits `cs` write. -/
def digitsValue (cs : List Char) : Nat :=
  cs.foldl (fun value c => 10 * value + (c.toNat - '0'.toNat)) 0

/-- `natural? cs` is the number that `cs` writes, if `cs` is one or more decimal digits. -/
def natural? (cs : List Char) : Option Nat :=
  if cs.isEmpty || !cs.all Char.isDigit then none else some (digitsValue cs)

/-- `integer? cs` is the number that `cs` writes, if `cs` is an optional sign and digits. -/
def integer? : List Char → Option Int
  | '-' :: cs => (natural? cs).map fun n => -(n : Int)
  | '+' :: cs => (natural? cs).map fun n => (n : Int)
  | cs => (natural? cs).map fun n => (n : Int)

/-- `integerText n` is the decimal text of the integer `n`. -/
def integerText (n : Int) : List Char :=
  if n < 0 then '-' :: digits n.natAbs else digits n.natAbs

/-- `fits64 n` says `n` is a signed 64-bit integer. -/
def fits64 (n : Int) : Bool :=
  -Int.pow 2 63 ≤ n && n < Int.pow 2 63

/-- `isCanonicalInteger cs` says `cs` is the decimal text of a signed 64-bit integer. -/
def isCanonicalInteger (cs : List Char) : Bool :=
  match integer? cs with
  | some n => fits64 n && integerText n == cs
  | none => false

end MarkupSemantics.Decimal
