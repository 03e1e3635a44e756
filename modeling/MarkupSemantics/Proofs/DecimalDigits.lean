import Mathlib.Algebra.Order.Ring.Int
import Mathlib.Data.List.Induction
import MarkupSemantics.Decimal.Integer

/-!
# Decimal digits

The decimal text of a natural number, and the natural number that digits write. `IsPositive` digits
do not begin with a zero, and `IsNatural` digits may also be a single zero. The text of a number has
this form and writes the number (`is_natural_digits`, `digits_value_digits`), and
`IsPositive.digits_digits_value` says that positive digits are the text of the number they write.
-/

namespace MarkupSemantics.Decimal

/-- `AllDigits cs` says `cs` has nothing in it but the digits `0` to `9`. -/
def AllDigits (cs : List Char) : Prop :=
  ∀ c ∈ cs, c.isDigit = true

/-- `IsPositive cs` says `cs` is a digit from `1` to `9` followed by any digits. -/
def IsPositive (cs : List Char) : Prop :=
  ∃ first rest, cs = first :: rest ∧ first.isDigit = true ∧ first ≠ '0' ∧ AllDigits rest

/-- `IsNatural cs` says `cs` is a single `0`, or digits that do not begin with `0`. -/
def IsNatural (cs : List Char) : Prop :=
  cs = ['0'] ∨ IsPositive cs

variable {c : Char} {cs ds : List Char} {n d : Nat}

/-! ### Digits and their values -/

/-- The digits are the characters 48 to 57. -/
theorem to_nat_of_is_digit (h : c.isDigit = true) : 48 ≤ c.toNat ∧ c.toNat ≤ 57 := by
  simpa [Char.isDigit, UInt32.le_iff_toNat_le] using h

/-- The digit of the value of a digit is the digit. -/
theorem digit_of_is_digit (h : c.isDigit = true) : digit (c.toNat - '0'.toNat) = c := by
  have hbounds := to_nat_of_is_digit h
  show Char.ofNat (48 + (c.toNat - 48)) = c
  rw [Nat.add_sub_cancel' hbounds.1, Char.ofNat_toNat]

/-- The digit of a value is the one that the library gives it. -/
theorem digit_eq_digit_char (h : d < 10) : digit d = Nat.digitChar d := by
  revert d
  decide

/-- Digits after digits are digits. -/
theorem AllDigits.append (h : AllDigits cs) (hmore : AllDigits ds) : AllDigits (cs ++ ds) := by
  intro c hc
  rcases List.mem_append.1 hc with hc | hc
  · exact h c hc
  · exact hmore c hc

/-- A positive number stays one with more digits at its end. -/
theorem IsPositive.append (h : IsPositive cs) (hmore : AllDigits ds) : IsPositive (cs ++ ds) := by
  obtain ⟨first, rest, rfl, hdigit, hzero, hrest⟩ := h
  exact ⟨first, rest ++ ds, rfl, hdigit, hzero, hrest.append hmore⟩

/-- A positive number has nothing in it but digits. -/
theorem IsPositive.all_digits (h : IsPositive cs) : AllDigits cs := by
  obtain ⟨first, rest, rfl, hdigit, _, hrest⟩ := h
  exact List.forall_mem_cons.2 ⟨hdigit, hrest⟩

/-- A positive number has some digit. -/
theorem IsPositive.ne_nil (h : IsPositive cs) : cs ≠ [] := by
  obtain ⟨first, rest, rfl, _⟩ := h
  exact List.cons_ne_nil first rest

/-- A natural number has nothing in it but digits. -/
theorem IsNatural.all_digits (h : IsNatural cs) : AllDigits cs := by
  rcases h with rfl | h
  · simp [AllDigits]
  · exact h.all_digits

/-- A natural number has some digit. -/
theorem IsNatural.ne_nil (h : IsNatural cs) : cs ≠ [] := by
  rcases h with rfl | h
  · exact List.cons_ne_nil _ _
  · exact h.ne_nil

/-- The value of digits is the one that the library gives them. -/
theorem digits_value_eq (cs : List Char) : digitsValue cs = Nat.ofDigitChars 10 cs 0 := rfl

/-- One more digit at the end multiplies the value by ten and adds its own. -/
theorem digits_value_concat (cs : List Char) (c : Char) :
    digitsValue (cs ++ [c]) = 10 * digitsValue cs + (c.toNat - '0'.toNat) := by
  rw [digitsValue, List.foldl_append]
  rfl

/-- Digits that do not begin with a zero write a number above zero. -/
theorem IsPositive.digits_value_pos (h : IsPositive cs) : 0 < digitsValue cs := by
  obtain ⟨first, rest, rfl, hdigit, hzero, _⟩ := h
  have hbounds := to_nat_of_is_digit hdigit
  have hne : first.toNat ≠ 48 := fun heq => hzero (by rw [← Char.ofNat_toNat first, heq])
  have hfirst : 0 < 10 * 0 + (first.toNat - '0'.toNat) := by
    show 0 < 10 * 0 + (first.toNat - 48)
    omega
  rw [digits_value_eq, Nat.ofDigitChars_cons, Nat.ofDigitChars_eq_ofDigitChars_zero]
  exact Nat.add_pos_left (Nat.mul_pos (Nat.pow_pos (by decide)) hfirst) _

/-! ### The text of a number -/

/-- The text of a number is the one that the library gives it. -/
theorem digits_eq_to_digits (n : Nat) : digits n = Nat.toDigits 10 n := by
  fun_induction digits n with
  | case1 n h => rw [Nat.toDigits_of_lt_base h, digit_eq_digit_char h]
  | case2 n h ih =>
      rw [Nat.toDigits_eq_if (by decide), if_neg h, ih,
        digit_eq_digit_char (Nat.mod_lt n (by decide))]

/-- The text of a number writes the number. -/
@[simp] theorem digits_value_digits (n : Nat) : digitsValue (digits n) = n := by
  rw [digits_eq_to_digits, digits_value_eq, Nat.ofDigitChars_ten_toDigits]

/-- The text of zero is a single zero. -/
theorem digits_zero : digits 0 = ['0'] := by
  rw [digits_eq_to_digits, Nat.toDigits_zero]

/-- The text of a number goes on with one more digit where the number is multiplied by ten. -/
theorem digits_concat (hn : 0 < n) (hd : d < 10) : digits (10 * n + d) = digits n ++ [digit d] := by
  rw [digits, if_neg (by omega)]
  congr 3
  · omega
  · omega

/-- A number is less than ten to the power of the number of its digits. -/
theorem lt_pow_length_digits (n : Nat) : n < 10 ^ (digits n).length := by
  rw [digits_eq_to_digits]
  exact (Nat.length_toDigits_le_iff (by decide) Nat.length_toDigits_pos).1 (Nat.le_refl _)

/-- The text of a number other than zero does not begin with a zero. -/
theorem is_positive_digits (hn : 0 < n) : IsPositive (digits n) := by
  fun_induction digits n with
  | case1 n h =>
      rw [digit_eq_digit_char h]
      refine ⟨_, [], rfl, ?_, ?_, ?_⟩
      · rw [Nat.isDigit_digitChar, decide_eq_true h]
      · rw [Ne, Nat.digitChar_eq_zero]
        omega
      · simp [AllDigits]
  | case2 n h ih =>
      refine (ih (by omega)).append ?_
      rw [digit_eq_digit_char (Nat.mod_lt n (by decide))]
      simp [AllDigits, Nat.isDigit_digitChar, Nat.mod_lt n]

/-- The text of a number is a single zero or does not begin with one. -/
theorem is_natural_digits (n : Nat) : IsNatural (digits n) := by
  rcases Nat.eq_zero_or_pos n with rfl | hn
  · exact Or.inl digits_zero
  · exact Or.inr (is_positive_digits hn)

/-- Digits that do not begin with a zero are the text of the number that they write. -/
theorem IsPositive.digits_digits_value (h : IsPositive cs) : digits (digitsValue cs) = cs := by
  obtain ⟨first, rest, rfl, hdigit, hzero, hrest⟩ := h
  -- from the last digit on, since this is where the text of a number is built
  induction rest using List.reverseRecOn with
  | nil =>
      have hbounds := to_nat_of_is_digit hdigit
      show digits (10 * 0 + (first.toNat - 48)) = [first]
      rw [digits, if_pos (by omega), Nat.mul_zero, Nat.zero_add]
      exact congrArg (fun c => [c]) (digit_of_is_digit hdigit)
  | append_singleton rest c ih =>
      have hc : c.isDigit = true := hrest c (by simp)
      have hbounds := to_nat_of_is_digit hc
      have hbefore : AllDigits rest := fun a ha => hrest a (by simp [ha])
      have hpositive : IsPositive (first :: rest) := ⟨first, rest, rfl, hdigit, hzero, hbefore⟩
      have hlast : c.toNat - '0'.toNat < 10 := by
        show c.toNat - 48 < 10
        omega
      rw [← List.cons_append, digits_value_concat,
        digits_concat hpositive.digits_value_pos hlast, ih hbefore, digit_of_is_digit hc]

/-! ### Reading digits -/

/-- A text is read as a number exactly if it has digits and nothing else, and writes the number. -/
theorem natural?_eq_some_iff :
    natural? cs = some n ↔ cs ≠ [] ∧ AllDigits cs ∧ digitsValue cs = n := by
  have hall : cs.all Char.isDigit = true ↔ AllDigits cs := List.all_eq_true
  cases hdigits : cs.all Char.isDigit with
  | true => simp [natural?, hdigits, ← hall]
  | false => simp [natural?, hdigits, ← hall]

/-- The text of a number is read as the number. -/
theorem natural?_digits (n : Nat) : natural? (digits n) = some n :=
  natural?_eq_some_iff.2 ⟨(is_natural_digits n).ne_nil, (is_natural_digits n).all_digits,
    digits_value_digits n⟩

end MarkupSemantics.Decimal
