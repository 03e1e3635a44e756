import MarkupSemantics.Proofs.ShortestDecimal

/-!
# Texts of numbers

`WritesNumber` is the grammar of numbers in positional notation, without zeros that could be left
out. A text of this form is read as the number that it writes (`WritesUnsigned.positional?`), and a
decimal that does not end in a zero after the point is written in this form
(`Scaled.writes_unsigned`).
-/

namespace MarkupSemantics.Decimal

/-- `IsFraction cs` says `cs` is any digits followed by a digit from `1` to `9`. -/
def IsFraction (cs : List Char) : Prop :=
  ∃ before last, cs = before ++ [last] ∧ AllDigits before ∧ last.isDigit = true ∧ last ≠ '0'

/-- `WritesUnsigned cs x` says `cs` is the number `x` without a sign: a single `0` or digits that do
not begin with `0`, and after them nothing, or a point and digits that do not end with `0`. -/
inductive WritesUnsigned : List Char → Rat → Prop where
  | whole (cs) : IsNatural cs → WritesUnsigned cs (Nat.ofDigitChars 10 cs 0)
  | point (whole fraction) : IsNatural whole → IsFraction fraction →
      WritesUnsigned (whole ++ '.' :: fraction)
        (Nat.ofDigitChars 10 whole 0 + Nat.ofDigitChars 10 fraction 0 / 10 ^ fraction.length)

/-- `WritesNumber cs x` says `cs` is the number `x`, with or without a minus sign before it. -/
inductive WritesNumber : List Char → Rat → Prop where
  | unsigned (cs x) : WritesUnsigned cs x → WritesNumber cs x
  | negative (cs x) : WritesUnsigned cs x → WritesNumber ('-' :: cs) (-x)

variable {cs ds : List Char} {x y : Rat} {d : Scaled} {c k n : Nat}

/-! ### Digits before and after each other -/

/-- Digits after digits write the former number, moved to the left, and the latter added to it. -/
theorem digits_value_append (cs ds : List Char) :
    digitsValue (cs ++ ds) = digitsValue cs * 10 ^ ds.length + digitsValue ds := by
  rw [digits_value_eq, Nat.ofDigitChars_append, Nat.ofDigitChars_eq_ofDigitChars_zero, Nat.mul_comm]
  rfl

/-- Zeros write zero. -/
theorem digits_value_zeros (k : Nat) : digitsValue (List.replicate k '0') = 0 := by
  induction k with
  | zero => rfl
  | succ k ih =>
      rw [List.replicate_succ', digits_value_concat, ih]
      rfl

/-- Zeros are digits. -/
theorem all_digits_zeros (k : Nat) : AllDigits (List.replicate k '0') := by
  intro c hc
  rw [(List.mem_replicate.1 hc).2]
  rfl

/-- Multiplying by a power of ten adds zeros. -/
theorem digits_mul_pow (hc : 0 < c) (k : Nat) :
    digits (c * 10 ^ k) = digits c ++ List.replicate k '0' := by
  induction k with
  | zero => simp
  | succ k ih =>
      have hpos : 0 < c * 10 ^ k := Nat.mul_pos hc (Nat.pow_pos (by decide))
      have hsplit : c * 10 ^ (k + 1) = 10 * (c * 10 ^ k) + 0 := by
        rw [Nat.pow_succ]
        ring
      rw [hsplit, digits_concat hpos (by decide), ih, List.replicate_succ', List.append_assoc]
      rfl

/-- The last digit of a number is its remainder. -/
theorem exists_digits_eq_concat (n : Nat) :
    ∃ before, AllDigits before ∧ digits n = before ++ [digit (n % 10)] := by
  rw [digits]
  split
  · rename_i hlt
    exact ⟨[], by simp [AllDigits], by rw [Nat.mod_eq_of_lt hlt, List.nil_append]⟩
  · exact ⟨digits (n / 10), (is_natural_digits _).all_digits, rfl⟩

/-- The first digits of a positive number are a positive number. -/
theorem IsPositive.take (h : IsPositive cs) (hn : 0 < n) : IsPositive (cs.take n) := by
  obtain ⟨first, rest, rfl, hdigit, hzero, hrest⟩ := h
  obtain ⟨n, rfl⟩ := Nat.exists_eq_succ_of_ne_zero hn.ne'
  exact ⟨first, rest.take n, rfl, hdigit, hzero, fun c hc => hrest c (List.mem_of_mem_take hc)⟩

/-- A fraction has nothing in it but digits. -/
theorem IsFraction.all_digits (h : IsFraction cs) : AllDigits cs := by
  obtain ⟨before, last, rfl, hbefore, hlast, _⟩ := h
  exact hbefore.append (List.forall_mem_singleton.2 hlast)

/-- A fraction has some digit. -/
theorem IsFraction.ne_nil (h : IsFraction cs) : cs ≠ [] := by
  obtain ⟨before, last, rfl, _⟩ := h
  exact List.concat_ne_nil last before

/-- The digits of a number that does not end in a zero are a fraction, whatever digits stand before
them and however many of these are left out. -/
theorem is_fraction_drop (hds : AllDigits ds) (hc : c % 10 ≠ 0)
    (hn : n < (ds ++ digits c).length) : IsFraction ((ds ++ digits c).drop n) := by
  obtain ⟨before, hbefore, hdigits⟩ := exists_digits_eq_concat c
  have hmod : c % 10 < 10 := Nat.mod_lt c (by decide)
  rw [hdigits, ← List.append_assoc, List.length_append, List.length_singleton] at hn
  rw [hdigits, ← List.append_assoc, List.drop_append_of_le_length (by omega)]
  refine ⟨_, _, rfl, fun c hc => (hds.append hbefore) c (List.mem_of_mem_drop hc), ?_, ?_⟩
  · rw [digit_eq_digit_char hmod, Nat.isDigit_digitChar, decide_eq_true hmod]
  · rw [digit_eq_digit_char hmod, Ne, Nat.digitChar_eq_zero]
    exact hc

/-- The digits before and after a point are those of one number. -/
theorem point_value (ds cs : List Char) :
    (Nat.ofDigitChars 10 ds 0 + Nat.ofDigitChars 10 cs 0 / 10 ^ cs.length : Rat) =
      digitsValue (ds ++ cs) / 10 ^ cs.length := by
  have hpos : (10 : Rat) ^ cs.length ≠ 0 := by positivity
  rw [digits_value_append]
  push_cast
  rw [add_div, mul_div_cancel_right₀ _ hpos]
  rfl

/-! ### Reading a number -/

/-- Digits have no character that is no digit. -/
theorem AllDigits.not_mem {a : Char} (h : AllDigits cs) (ha : a.isDigit = false) : a ∉ cs := by
  intro hmem
  rw [h a hmem] at ha
  cases ha

/-- Digits are read as the number that they write. -/
theorem natural?_of_all_digits (hne : cs ≠ []) (h : AllDigits cs) :
    natural? cs = some (digitsValue cs) :=
  natural?_eq_some_iff.2 ⟨hne, h, rfl⟩

/-- A number is read as it is written. -/
theorem WritesUnsigned.positional? (h : WritesUnsigned cs x) : positional? cs = some x := by
  cases h with
  | whole cs hcs =>
      rw [Decimal.positional?, Text.split_first_eq_none.2 (hcs.all_digits.not_mem rfl)]
      simp only [natural?_of_all_digits hcs.ne_nil hcs.all_digits]
      rfl
  | point whole fraction hwhole hfraction =>
      rw [Decimal.positional?,
        Text.split_first_eq_some.2 ⟨rfl, hwhole.all_digits.not_mem rfl⟩]
      simp only [natural?_of_all_digits hwhole.ne_nil hwhole.all_digits,
        natural?_of_all_digits hfraction.ne_nil hfraction.all_digits, point_value]
      rfl

/-- A text without a sign writes one number at most. -/
theorem WritesUnsigned.unique (h : WritesUnsigned cs x) (hother : WritesUnsigned cs y) : x = y :=
  Option.some.inj (h.positional?.symm.trans hother.positional?)

/-- A number without a sign has no minus sign in it. -/
theorem WritesUnsigned.minus_not_mem (h : WritesUnsigned cs x) : '-' ∉ cs := by
  cases h with
  | whole cs hcs => exact hcs.all_digits.not_mem rfl
  | point whole fraction hwhole hfraction =>
      rw [List.mem_append, List.mem_cons, not_or, not_or]
      exact ⟨hwhole.all_digits.not_mem rfl, by decide,
        hfraction.all_digits.not_mem rfl⟩

/-- A text writes one number at most. -/
theorem WritesNumber.unique (h : WritesNumber cs x) (hother : WritesNumber cs y) : x = y := by
  cases h with
  | unsigned _ _ h =>
      cases hother with
      | unsigned _ _ hother => exact h.unique hother
      | negative ds y _ => exact absurd List.mem_cons_self h.minus_not_mem
  | negative ds x h =>
      cases hother with
      | unsigned _ _ hother => exact absurd List.mem_cons_self hother.minus_not_mem
      | negative _ y hother => rw [h.unique hother]

/-- A number without a sign is not negative. -/
theorem positional?_nonneg (h : positional? cs = some x) : 0 ≤ x := by
  rw [positional?] at h
  split at h
  · obtain ⟨n, _, rfl⟩ := Option.map_eq_some_iff.1 h
    exact Nat.cast_nonneg n
  · simp only [Option.bind_eq_bind, Option.bind_eq_some_iff] at h
    obtain ⟨_, _, _, _, hvalue⟩ := h
    cases hvalue
    exact div_nonneg (Nat.cast_nonneg _) (by positivity)

/-! ### Writing a decimal -/

/-- A whole number of units of a place before the point is written as a natural number. -/
theorem Scaled.text_of_nonneg (hc : 0 < c) (k : Nat) :
    Scaled.text ⟨c, k⟩ = digits (c * 10 ^ k) := by
  rw [digits_mul_pow hc, Scaled.text, if_pos (Int.natCast_nonneg k)]
  rfl

/-- With enough zeros before it, a number of units of a place after the point is cut at the
point. -/
theorem Scaled.text_of_neg (hc : 0 < c) (hlast : c % 10 ≠ 0) (hk : 0 < k) :
    ∃ whole fraction, Scaled.text ⟨c, -k⟩ = whole ++ '.' :: fraction ∧ IsNatural whole ∧
      IsFraction fraction ∧ fraction.length = k ∧ digitsValue (whole ++ fraction) = c := by
  obtain ⟨zeros, hzeros⟩ : ∃ zeros, zeros = k + 1 - (digits c).length := ⟨_, rfl⟩
  obtain ⟨padded, hpadded⟩ : ∃ padded, padded = List.replicate zeros '0' ++ digits c := ⟨_, rfl⟩
  have hlength : padded.length = zeros + (digits c).length := by
    rw [hpadded, List.length_append, List.length_replicate]
  refine ⟨padded.take (padded.length - k), padded.drop (padded.length - k), ?_, ?_, ?_, ?_, ?_⟩
  · have htext : Scaled.text ⟨c, -k⟩ = padded.take (padded.length - k) ++
        '.' :: padded.drop (padded.length - k) := by
      rw [Scaled.text, if_neg (by show ¬0 ≤ -(k : Int); omega), hpadded, hzeros]
      simp
    exact htext
  · rcases Nat.eq_zero_or_pos zeros with hnone | hsome
    · -- there are digits before the point
      rw [hnone, List.replicate_zero, List.nil_append] at hpadded
      rw [hpadded]
      exact Or.inr ((is_positive_digits hc).take (by rw [hpadded] at hlength; omega))
    · left
      have hone : padded.length - k = 1 := by omega
      obtain ⟨more, hmore⟩ := Nat.exists_eq_succ_of_ne_zero hsome.ne'
      rw [hone, hpadded, hmore]
      rfl
  · rw [hpadded] at hlength ⊢
    exact is_fraction_drop (all_digits_zeros zeros) hlast (by omega)
  · rw [List.length_drop]
    omega
  · rw [List.take_append_drop, hpadded, digits_value_append, digits_value_zeros,
      digits_value_digits, Nat.zero_mul, Nat.zero_add]

/-- A positive decimal is written as a number, if it does not end in a zero after the point. -/
theorem Scaled.writes_unsigned (hc : 0 < d.coefficient)
    (hlast : d.place < 0 → d.coefficient % 10 ≠ 0) : WritesUnsigned d.text d.value := by
  obtain ⟨c, place⟩ := d
  rcases Int.lt_or_le place 0 with hneg | hnonneg
  · obtain ⟨k, rfl⟩ : ∃ k : Nat, place = -k := ⟨place.natAbs, by omega⟩
    obtain ⟨whole, fraction, htext, hwhole, hfraction, hlength, hvalue⟩ :=
      Scaled.text_of_neg hc (hlast hneg) (by omega : 0 < k)
    have hwrites := WritesUnsigned.point whole fraction hwhole hfraction
    rw [point_value, hvalue, hlength] at hwrites
    have hscaled : Scaled.value ⟨c, -k⟩ = c / 10 ^ k := by
      show (c : Rat) * 10 ^ (-(k : Int)) = c / 10 ^ k
      rw [zpow_neg, zpow_natCast, div_eq_mul_inv]
    rwa [htext, hscaled]
  · obtain ⟨k, rfl⟩ := Int.eq_ofNat_of_zero_le hnonneg
    have hwrites := WritesUnsigned.whole _ (is_natural_digits (c * 10 ^ k))
    rw [← digits_value_eq, digits_value_digits, Nat.cast_mul, Nat.cast_pow] at hwrites
    have hscaled : Scaled.value ⟨c, k⟩ = c * (10 : Nat) ^ k := by
      show (c : Rat) * 10 ^ (k : Int) = c * (10 : Nat) ^ k
      rw [zpow_natCast]
      rfl
    rwa [Scaled.text_of_nonneg hc, hscaled]

end MarkupSemantics.Decimal
