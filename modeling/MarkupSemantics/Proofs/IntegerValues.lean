import MarkupSemantics.Proofs.DecimalDigits
import MarkupSemantics.Rules.PropertyValue

/-!
# Integer values

A value of the type `integer` is read as a number with an optional sign and any number of leading
zeros, and is accepted if the number has 64 bits and its decimal text is the value again.
`WritesInteger` is the grammar of these texts, and `integer_text_eq_iff` says that there is one for
every integer. The main statement is `accepts_integer_iff`.
-/

namespace MarkupSemantics

namespace Decimal

/-- `WritesInteger cs n` says `cs` is the integer `n` as it must be written: a single `0`, or a
digit from `1` to `9` followed by any digits, with a minus sign before it if `n` is negative. -/
inductive WritesInteger : List Char → Int → Prop where
  | zero : WritesInteger ['0'] 0
  | positive (cs) : IsPositive cs → WritesInteger cs (Nat.ofDigitChars 10 cs 0)
  | negative (cs) : IsPositive cs → WritesInteger ('-' :: cs) (-(Nat.ofDigitChars 10 cs 0 : Int))

variable {cs : List Char} {n : Int}

/-! ### The text of an integer -/

/-- The text of a natural number has no sign. -/
@[simp] theorem integer_text_of_nat (n : Nat) : integerText n = digits n := by
  rw [integerText, if_neg (by omega), Int.natAbs_natCast]

/-- The text of a negative number is that of its opposite after a minus sign. -/
theorem integer_text_neg_of_nat {n : Nat} (hn : 0 < n) :
    integerText (-(n : Int)) = '-' :: digits n := by
  rw [integerText, if_pos (by omega), Int.natAbs_neg, Int.natAbs_natCast]

/-- The text of an integer is the one that the library gives it. -/
theorem to_list_to_string (n : Int) : (toString n).toList = integerText n := by
  rw [Int.toString_eq_repr, Int.repr_eq_if, integerText]
  split
  · rename_i h
    rw [if_neg (by omega), Nat.toList_repr, digits_eq_to_digits]
    congr 1
    omega
  · rename_i h
    rw [if_pos (by omega), String.toList_append, Nat.toList_repr, digits_eq_to_digits]
    show '-' :: Nat.toDigits 10 (-n).toNat = '-' :: Nat.toDigits 10 n.natAbs
    congr 2
    omega

/-- An integer is zero, a positive natural number, or the opposite of one. -/
theorem eq_zero_or_eq_nat_or_eq_neg (n : Int) :
    n = 0 ∨ ∃ m : Nat, 0 < m ∧ (n = m ∨ n = -(m : Int)) := by
  rcases Nat.eq_zero_or_pos n.natAbs with hzero | hpos
  · exact Or.inl (Int.natAbs_eq_zero.1 hzero)
  · exact Or.inr ⟨n.natAbs, hpos, Int.natAbs_eq n⟩

/-- The text of an integer writes the integer. -/
theorem writes_integer_integer_text (n : Int) : WritesInteger (integerText n) n := by
  have hvalue : ∀ m : Nat, Nat.ofDigitChars 10 (digits m) 0 = m := digits_value_digits
  rcases eq_zero_or_eq_nat_or_eq_neg n with rfl | ⟨m, hm, rfl | rfl⟩
  · rw [← Int.natCast_zero, integer_text_of_nat, digits_zero]
    exact .zero
  · have hwrites := WritesInteger.positive _ (is_positive_digits hm)
    rwa [hvalue, ← integer_text_of_nat] at hwrites
  · have hwrites := WritesInteger.negative _ (is_positive_digits hm)
    rwa [hvalue, ← integer_text_neg_of_nat hm] at hwrites

/-- Every integer is written in one way. -/
theorem integer_text_eq_iff : integerText n = cs ↔ WritesInteger cs n := by
  constructor
  · rintro rfl
    exact writes_integer_integer_text n
  · intro h
    cases h with
    | zero => exact (integer_text_of_nat 0).trans digits_zero
    | positive cs h => exact (integer_text_of_nat _).trans h.digits_digits_value
    | negative cs h =>
        exact (integer_text_neg_of_nat h.digits_value_pos).trans
          (congrArg ('-' :: ·) h.digits_digits_value)

/-! ### Reading an integer -/

/-- Digits are read without a sign. -/
theorem integer?_of_all_digits (h : AllDigits cs) :
    integer? cs = (natural? cs).map fun n => (n : Int) := by
  rw [integer?]
  · rintro ds rfl
    cases h '-' List.mem_cons_self
  · rintro ds rfl
    cases h '+' List.mem_cons_self

/-- The text of an integer is read as the integer. -/
theorem integer?_integer_text (n : Int) : integer? (integerText n) = some n := by
  rcases eq_zero_or_eq_nat_or_eq_neg n with rfl | ⟨m, hm, rfl | rfl⟩
  · rw [← Int.natCast_zero, integer_text_of_nat, digits_zero]
    rfl
  · rw [integer_text_of_nat, integer?_of_all_digits (is_natural_digits m).all_digits,
      natural?_digits]
    rfl
  · rw [integer_text_neg_of_nat hm, integer?, natural?_digits]
    rfl

/-- A text is accepted if it is that of an integer with 64 bits. -/
theorem is_canonical_integer_iff :
    isCanonicalInteger cs = true ↔ ∃ n, fits64 n = true ∧ integerText n = cs := by
  rw [isCanonicalInteger]
  constructor
  · intro h
    cases hread : integer? cs with
    | none => simp [hread] at h
    | some n => exact ⟨n, by simpa [hread] using h⟩
  · rintro ⟨n, hfits, rfl⟩
    simp [integer?_integer_text, hfits]

/-- A number has 64 bits exactly if it lies between the least and the greatest signed one. -/
theorem fits64_iff : fits64 n = true ↔ -2 ^ 63 ≤ n ∧ n ≤ 2 ^ 63 - 1 := by
  have hpow : Int.pow 2 63 = 2 ^ 63 := rfl
  rw [fits64, Bool.and_eq_true, decide_eq_true_eq, decide_eq_true_eq, hpow]
  omega

end Decimal

namespace Aria.ValueType

open Decimal

/-- An integer is accepted exactly if it is written as a single `0`, or as a digit from `1` to `9`
followed by any digits after an optional minus sign, and lies between the least and the greatest
signed number with 64 bits. These texts are the decimal texts of the numbers with 64 bits, and each
is the text of just one of them. -/
theorem accepts_integer_iff (tokens : List String) (value : String) :
    (integer.accepts tokens value = true ↔
      ∃ n, WritesInteger value.toList n ∧ -2 ^ 63 ≤ n ∧ n ≤ 2 ^ 63 - 1) ∧
    (integer.accepts tokens value = true ↔ ∃! n : Int64, value = toString n) := by
  have haccepts : integer.accepts tokens value = true ↔
      ∃ n, fits64 n = true ∧ integerText n = value.toList := is_canonical_integer_iff
  refine ⟨?_, ?_⟩
  · simp only [haccepts, fits64_iff, integer_text_eq_iff]
    exact exists_congr fun n => and_comm
  · have htext : ∀ n : Int64, value = toString n ↔ integerText n.toInt = value.toList := by
      intro n
      rw [← to_list_to_string, String.toList_inj, eq_comm]
      rfl
    simp only [haccepts, htext]
    constructor
    · rintro ⟨n, hfits, hn⟩
      obtain ⟨hleast, hgreatest⟩ := fits64_iff.1 hfits
      have hint : (Int64.ofInt n).toInt = n := Int64.toInt_ofInt_of_le hleast (by omega)
      refine ⟨Int64.ofInt n, ?_, fun m hm => ?_⟩
      · show integerText (Int64.ofInt n).toInt = value.toList
        rw [hint, hn]
      · -- both are read from the value
        have hread := integer?_integer_text m.toInt
        rw [hm, ← hn, integer?_integer_text] at hread
        rw [Option.some.inj hread, Int64.ofInt_toInt]
    · rintro ⟨n, hn, _⟩
      have hleast := n.minValue_le_toInt
      have hgreatest := n.toInt_le
      exact ⟨n.toInt, fits64_iff.2 ⟨hleast, hgreatest⟩, hn⟩

end Aria.ValueType

end MarkupSemantics
