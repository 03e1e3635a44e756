import MarkupSemantics.Proofs.IntegerValues
import MarkupSemantics.Proofs.NumberTexts

/-!
# Number values

A value of the type `number` is read as a number in positional notation, is rounded to a binary64
value, and is accepted if the shortest decimal of that value is written in the same way again.
`IsNumberText` relates a value to this text, and `is_canonical_number_iff` says that these texts are
the accepted ones, one for each value (`exists_unique_canonical_number`). The main statement is
`accepts_number_of_value`.
-/

namespace MarkupSemantics

namespace Decimal

open Binary64 (nearest?_eq_some_iff)

/-- `RoundsTo x q` says `q` is the binary64 value that `x` rounds to; the sign is that of `x`. -/
def RoundsTo (x q : Rat) : Prop :=
  ∃ b : Binary64, b.IsNearest |x| ∧ (0 ≤ x ∧ q = b.value ∨ x < 0 ∧ q = -b.value)

/-- `Denotes cs q` says `cs` is a number that rounds to the binary64 value `q`. -/
def Denotes (cs : List Char) (q : Rat) : Prop :=
  ∃ x, WritesNumber cs x ∧ RoundsTo x q

/-- `IsNumberText cs q` says `cs` is the text of the binary64 value `q`: a single `0` for zero, and
the shortest decimal for any other value, with a minus sign before it if the value is negative. -/
def IsNumberText (cs : List Char) (q : Rat) : Prop :=
  (cs = ['0'] ∧ q = 0) ∨
    ∃ (b : Binary64) (d : Scaled), 0 < b.significand ∧ b.IsShortest d ∧
      (cs = d.text ∧ q = b.value ∨ cs = '-' :: d.text ∧ q = -b.value)

variable {b c : Binary64} {d e : Scaled} {cs ds text : List Char} {x q r : Rat}

/-! ### The shortest decimal as a text -/

namespace Binary64.IsShortest

/-- The shortest decimal of a value above zero is above zero. -/
theorem value_pos (h : b.IsShortest d) (hpos : 0 < b.significand) : 0 < d.value := by
  have hholds := (h.rounds.canonical.is_nearest_iff hpos d.value_nonneg).1 h.rounds
  exact (lower_pos hpos).trans_le (holds_iff.1 hholds).1

/-- The shortest decimal of a value above zero has a digit other than zero. -/
theorem coefficient_pos (h : b.IsShortest d) (hpos : 0 < b.significand) : 0 < d.coefficient := by
  have hvalue := h.value_pos hpos
  refine Nat.pos_of_ne_zero fun hzero => ?_
  rw [Scaled.value, hzero, Nat.cast_zero, zero_mul] at hvalue
  exact lt_irrefl 0 hvalue

/-- A shortest decimal does not end in a zero, since without it it would be shorter. -/
theorem last_ne_zero (h : b.IsShortest d) : d.coefficient % 10 ≠ 0 := by
  intro hzero
  have hsplit : ((d.coefficient / 10 * 10 : Nat) : Rat) = d.coefficient :=
    congrArg Nat.cast (by omega)
  have hsame : Scaled.value ⟨d.coefficient / 10, d.place + 1⟩ = d.value := by
    rw [Scaled.value, Scaled.value, zpow_add_one₀ (by norm_num), ← hsplit]
    push_cast
    ring
  have hle : d.place + 1 ≤ d.place := h.coarsest _ (hsame ▸ h.rounds)
  omega

/-- The shortest decimal of a value above zero is written as a number without a sign. -/
theorem writes_unsigned (h : b.IsShortest d) (hpos : 0 < b.significand) :
    WritesUnsigned d.text d.value :=
  Scaled.writes_unsigned (h.coefficient_pos hpos) fun _ => h.last_ne_zero

/-- The shortest decimal of a value above zero is not written as a zero. -/
theorem text_ne_zero (h : b.IsShortest d) (hpos : 0 < b.significand) : d.text ≠ ['0'] := by
  intro hzero
  have hwrites := h.writes_unsigned hpos
  rw [hzero] at hwrites
  have hvalue : d.value = ((0 : Nat) : Rat) := hwrites.unique (.whole ['0'] (Or.inl rfl))
  exact (h.value_pos hpos).ne' hvalue

/-- The shortest decimal of a value above zero is written without a sign. -/
theorem text_ne_cons (h : b.IsShortest d) (hpos : 0 < b.significand) (cs : List Char) :
    '-' :: cs ≠ d.text := by
  intro htext
  have hminus := (h.writes_unsigned hpos).minus_not_mem
  rw [← htext] at hminus
  exact hminus List.mem_cons_self

/-- Equal values have the same shortest decimal. -/
theorem eq_of_value_eq (h : b.IsShortest d) (hother : c.IsShortest e) (hvalue : b.value = c.value) :
    d = e := by
  have hsame : b = c := h.rounds.canonical.eq_of_value_eq hother.rounds.canonical hvalue
  exact h.unique (hsame ▸ hother)

end Binary64.IsShortest

/-! ### Reading, rounding and writing -/

/-- Zero rounds to a zero. -/
theorem nearest?_zero : nearest? 0 = some ⟨0, -53⟩ := by
  decide +kernel

/-- The text that a number is written as once it is rounded. -/
theorem unsigned_text?_of_nearest? (h : nearest? x = some b) :
    unsignedText? x = if b.significand = 0 then some ['0'] else b.shortest?.map Scaled.text := by
  rw [unsignedText?, h]
  show (if b.significand = 0 then some ['0'] else b.shortest?.bind fun d => some d.text) = _
  rw [Option.map_eq_bind]
  rfl

/-- A text without a sign comes back if it is a single `0` or a shortest decimal. -/
theorem unsigned_text?_eq_iff : (positional? cs).bind unsignedText? = some cs ↔
    cs = ['0'] ∨
      ∃ (b : Binary64) (d : Scaled), 0 < b.significand ∧ b.IsShortest d ∧ cs = d.text := by
  constructor
  · intro h
    obtain ⟨x, hread, hwritten⟩ := Option.bind_eq_some_iff.1 h
    rcases (positional?_nonneg hread).eq_or_lt with rfl | hx
    · rw [unsigned_text?_of_nearest? nearest?_zero, if_pos rfl] at hwritten
      exact Or.inl (Option.some.inj hwritten).symm
    · cases hnearest : nearest? x with
      | none => simp [unsignedText?, hnearest] at hwritten
      | some b =>
          have hb := ((nearest?_eq_some_iff hx).1 hnearest).canonical
          rw [unsigned_text?_of_nearest? hnearest] at hwritten
          split at hwritten
          · exact Or.inl (Option.some.inj hwritten).symm
          · rename_i hne
            have hpos := Nat.pos_of_ne_zero hne
            obtain ⟨d, hd, rfl⟩ := Option.map_eq_some_iff.1 hwritten
            exact Or.inr ⟨b, d, hpos, hb.is_shortest_of_shortest? hpos hd, rfl⟩
  · rintro (rfl | ⟨b, d, hpos, hd, rfl⟩)
    · have hread : positional? ['0'] = some 0 :=
        (WritesUnsigned.whole ['0'] (Or.inl rfl)).positional?
      rw [hread, Option.bind_some, unsigned_text?_of_nearest? nearest?_zero, if_pos rfl]
    · have hnearest := (nearest?_eq_some_iff (hd.value_pos hpos)).2 hd.rounds
      rw [(hd.writes_unsigned hpos).positional?, Option.bind_some,
        unsigned_text?_of_nearest? hnearest, if_neg hpos.ne',
        (hd.rounds.canonical.shortest?_eq_some_iff hpos).2 hd]
      rfl

/-- A text with a minus sign is accepted exactly if the rest of it comes back and is not zero. -/
theorem is_canonical_number_negative : isCanonicalNumber ('-' :: cs) = true ↔
    (positional? cs).bind unsignedText? = some cs ∧ cs ≠ ['0'] := by
  rw [isCanonicalNumber]
  cases (positional? cs).bind unsignedText? with
  | none => simp
  | some text => simp

/-- A text without a minus sign is accepted exactly if it comes back. -/
theorem is_canonical_number_unsigned (h : ∀ ds, cs ≠ '-' :: ds) :
    isCanonicalNumber cs = true ↔ (positional? cs).bind unsignedText? = some cs := by
  rw [isCanonicalNumber]
  · cases (positional? cs).bind unsignedText? with
    | none => simp
    | some text => simp
  · exact h

/-- The accepted texts are those of the binary64 values. -/
theorem is_canonical_number_iff : isCanonicalNumber cs = true ↔ ∃ q, IsNumberText cs q := by
  by_cases hsign : ∃ ds, cs = '-' :: ds
  · obtain ⟨ds, rfl⟩ := hsign
    rw [is_canonical_number_negative, unsigned_text?_eq_iff]
    constructor
    · rintro ⟨hzero | ⟨b, d, hpos, hd, rfl⟩, hne⟩
      · exact absurd hzero hne
      · exact ⟨-b.value, Or.inr ⟨b, d, hpos, hd, Or.inr ⟨rfl, rfl⟩⟩⟩
    · rintro ⟨q, ⟨hzero, _⟩ | ⟨b, d, hpos, hd, ⟨htext, _⟩ | ⟨htext, _⟩⟩⟩
      · cases hzero
      · exact absurd htext (hd.text_ne_cons hpos ds)
      · obtain rfl := List.tail_eq_of_cons_eq htext
        exact ⟨Or.inr ⟨b, d, hpos, hd, rfl⟩, hd.text_ne_zero hpos⟩
  · have hunsigned : ∀ ds, cs ≠ '-' :: ds := fun ds heq => hsign ⟨ds, heq⟩
    rw [is_canonical_number_unsigned hunsigned, unsigned_text?_eq_iff]
    constructor
    · rintro (hzero | ⟨b, d, hpos, hd, htext⟩)
      · exact ⟨0, Or.inl ⟨hzero, rfl⟩⟩
      · exact ⟨b.value, Or.inr ⟨b, d, hpos, hd, Or.inl ⟨htext, rfl⟩⟩⟩
    · rintro ⟨q, ⟨hzero, _⟩ | ⟨b, d, hpos, hd, ⟨htext, _⟩ | ⟨htext, _⟩⟩⟩
      · exact Or.inl hzero
      · exact Or.inr ⟨b, d, hpos, hd, htext⟩
      · exact absurd htext (hunsigned d.text)

/-! ### The value of a text -/

/-- A number rounds to one value. -/
theorem RoundsTo.unique (h : RoundsTo x q) (hother : RoundsTo x r) : q = r := by
  obtain ⟨b, hb, hq⟩ := h
  obtain ⟨c, hc, hr⟩ := hother
  cases hb.unique (abs_nonneg x) hc
  rcases hq with ⟨hx, rfl⟩ | ⟨hx, rfl⟩
  · rcases hr with ⟨_, rfl⟩ | ⟨hneg, _⟩
    · rfl
    · exact absurd hneg (not_lt.2 hx)
  · rcases hr with ⟨hnonneg, _⟩ | ⟨_, rfl⟩
    · exact absurd hx (not_lt.2 hnonneg)
    · rfl

/-- A text denotes one value. -/
theorem Denotes.unique (h : Denotes cs q) (hother : Denotes cs r) : q = r := by
  obtain ⟨x, hx, hq⟩ := h
  obtain ⟨y, hy, hr⟩ := hother
  rw [hy.unique hx] at hr
  exact hq.unique hr

namespace IsNumberText

/-- The text of a value denotes the value. -/
theorem denotes (h : IsNumberText cs q) : Denotes cs q := by
  rcases h with ⟨rfl, rfl⟩ | ⟨b, d, hpos, hd, ⟨rfl, rfl⟩ | ⟨rfl, rfl⟩⟩
  · have hzero : Binary64.IsCanonical ⟨0, -1074⟩ :=
      ⟨by norm_num, le_refl _, by norm_num, Or.inl rfl⟩
    have hvalue : Binary64.value ⟨0, -1074⟩ = 0 := by
      rw [Binary64.value, Nat.cast_zero, zero_mul]
    have hnearest := hzero.is_nearest (Binary64.holds_value _)
    rw [hvalue, ← abs_zero] at hnearest
    exact ⟨0, .unsigned _ _ (.whole ['0'] (Or.inl rfl)), _, hnearest,
      Or.inl ⟨le_refl 0, hvalue.symm⟩⟩
  · refine ⟨d.value, .unsigned _ _ (hd.writes_unsigned hpos), b, ?_,
      Or.inl ⟨d.value_nonneg, rfl⟩⟩
    rw [abs_of_nonneg d.value_nonneg]
    exact hd.rounds
  · refine ⟨-d.value, .negative _ _ (hd.writes_unsigned hpos), b, ?_,
      Or.inr ⟨neg_neg_of_pos (hd.value_pos hpos), rfl⟩⟩
    rw [abs_neg, abs_of_nonneg d.value_nonneg]
    exact hd.rounds

/-- A value has one text. -/
theorem unique (h : IsNumberText cs q) (hother : IsNumberText ds q) : cs = ds := by
  have hpositive : ∀ {b : Binary64}, 0 < b.significand → 0 < b.value := fun hpos =>
    mul_pos (Nat.cast_pos.2 hpos) (Binary64.spacing_pos _)
  rcases h with ⟨rfl, hq⟩ | ⟨b, d, hpos, hd, ⟨rfl, hq⟩ | ⟨rfl, hq⟩⟩
  · rcases hother with ⟨rfl, _⟩ | ⟨c, e, hpos, _, ⟨_, hr⟩ | ⟨_, hr⟩⟩
    · rfl
    · have hc := hpositive hpos
      linarith
    · have hc := hpositive hpos
      linarith
  · have hb := hpositive hpos
    rcases hother with ⟨_, hr⟩ | ⟨c, e, hposOther, he, ⟨rfl, hr⟩ | ⟨_, hr⟩⟩
    · linarith
    · rw [hd.eq_of_value_eq he (hq.symm.trans hr)]
    · have hc := hpositive hposOther
      linarith
  · have hb := hpositive hpos
    rcases hother with ⟨_, hr⟩ | ⟨c, e, hposOther, he, ⟨_, hr⟩ | ⟨rfl, hr⟩⟩
    · linarith
    · have hc := hpositive hposOther
      linarith
    · rw [hd.eq_of_value_eq he (neg_injective (hq.symm.trans hr))]

/-- No value has the text of a negative zero. -/
theorem ne_negative_zero (h : IsNumberText cs q) : cs ≠ ['-', '0'] := by
  rintro rfl
  rcases h with ⟨hzero, _⟩ | ⟨b, d, hpos, hd, ⟨htext, _⟩ | ⟨htext, _⟩⟩
  · cases hzero
  · exact hd.text_ne_cons hpos ['0'] htext
  · exact hd.text_ne_zero hpos (List.tail_eq_of_cons_eq htext).symm

end IsNumberText

/-- Every value has a text, and so has the value with the other sign. -/
theorem exists_number_text (hb : b.IsCanonical) :
    (∃ cs, IsNumberText cs b.value) ∧ ∃ cs, IsNumberText cs (-b.value) := by
  rcases Nat.eq_zero_or_pos b.significand with hzero | hpos
  · have hvalue : b.value = 0 := by
      rw [Binary64.value_eq, hzero, Nat.cast_zero, zero_mul]
    rw [hvalue, neg_zero]
    exact ⟨⟨['0'], Or.inl ⟨rfl, rfl⟩⟩, ['0'], Or.inl ⟨rfl, rfl⟩⟩
  · obtain ⟨d, hd⟩ := hb.exists_shortest?
    have hshortest := hb.is_shortest_of_shortest? hpos hd
    exact ⟨⟨d.text, Or.inr ⟨b, d, hpos, hshortest, Or.inl ⟨rfl, rfl⟩⟩⟩,
      '-' :: d.text, Or.inr ⟨b, d, hpos, hshortest, Or.inr ⟨rfl, rfl⟩⟩⟩

/-- Of the texts that denote a value, of whatever sign, just one is accepted. -/
theorem exists_unique_canonical_number (hb : b.IsCanonical) (hq : q = b.value ∨ q = -b.value) :
    ∃! cs, isCanonicalNumber cs = true ∧ Denotes cs q := by
  obtain ⟨hvalue, hneg⟩ := exists_number_text hb
  obtain ⟨cs, hcs⟩ : ∃ cs, IsNumberText cs q := by
    rcases hq with rfl | rfl
    · exact hvalue
    · exact hneg
  refine ⟨cs, ⟨is_canonical_number_iff.2 ⟨q, hcs⟩, hcs.denotes⟩, ?_⟩
  rintro ds ⟨hds, hdenotes⟩
  obtain ⟨r, hr⟩ := is_canonical_number_iff.1 hds
  cases hr.denotes.unique hdenotes
  exact hr.unique hcs

/-- Integers up to `2 ^ 53` on either side of zero are written as numbers in the same way. -/
theorem is_number_text_integer_text {n : Int} (h : |n| ≤ 2 ^ 53) :
    ∃ q, IsNumberText (integerText n) q := by
  rcases eq_zero_or_eq_nat_or_eq_neg n with rfl | ⟨m, hm, hn⟩
  · exact ⟨0, Or.inl ⟨(integer_text_of_nat 0).trans digits_zero, rfl⟩⟩
  · have hle : m ≤ 2 ^ 53 := by
      rw [abs_le] at h
      omega
    obtain ⟨b, c, k, hpos, hd, hc, hsplit⟩ := Binary64.exists_shortest_of_le hm hle
    have htext : Scaled.text ⟨c, k⟩ = digits m := by
      rw [Scaled.text_of_nonneg hc, hsplit]
    rcases hn with rfl | rfl
    · rw [integer_text_of_nat, ← htext]
      exact ⟨b.value, Or.inr ⟨b, _, hpos, hd, Or.inl ⟨rfl, rfl⟩⟩⟩
    · rw [integer_text_neg_of_nat hm, ← htext]
      exact ⟨-b.value, Or.inr ⟨b, _, hpos, hd, Or.inr ⟨rfl, rfl⟩⟩⟩

end Decimal

namespace Aria.ValueType

open Decimal

/-- A number is accepted only if it is written without zeros that could be left out and is not `-0`.
It denotes one binary64 value, every binary64 value is denoted by an accepted number, and two
accepted numbers that denote the same value are the same text. The decimal text of an integer up to
`2 ^ 53` on either side of zero is accepted both as a number and as an integer. -/
theorem accepts_number_of_value (tokens : List String) :
    (∀ value, number.accepts tokens value = true →
      (∃ x, WritesNumber value.toList x) ∧ value ≠ "-0" ∧ ∃! q, Denotes value.toList q) ∧
    (∀ (b : Binary64) (q : Rat), b.IsCanonical → q = b.value ∨ q = -b.value →
      ∃ value : String, number.accepts tokens value = true ∧ Denotes value.toList q) ∧
    (∀ value other q, number.accepts tokens value = true → number.accepts tokens other = true →
      Denotes value.toList q → Denotes other.toList q → value = other) ∧
    ∀ n : Int, |n| ≤ 2 ^ 53 →
      number.accepts tokens (toString n) = true ∧ integer.accepts tokens (toString n) = true := by
  have haccepts : ∀ value : String, number.accepts tokens value = true ↔
      ∃ q, IsNumberText value.toList q := fun value => is_canonical_number_iff
  refine ⟨fun value h => ?_, fun b q hb hq => ?_, fun value other q h hother hq hr => ?_,
    fun n hn => ⟨?_, ?_⟩⟩
  · obtain ⟨q, htext⟩ := (haccepts value).1 h
    obtain ⟨x, hx, hround⟩ := htext.denotes
    refine ⟨⟨x, hx⟩, ?_, q, ⟨x, hx, hround⟩, fun r hr => hr.unique ⟨x, hx, hround⟩⟩
    rintro rfl
    exact htext.ne_negative_zero rfl
  · obtain ⟨cs, ⟨hcs, hdenotes⟩, _⟩ := exists_unique_canonical_number hb hq
    rw [← String.toList_ofList (l := cs)] at hcs hdenotes
    exact ⟨String.ofList cs, hcs, hdenotes⟩
  · obtain ⟨q', htext⟩ := (haccepts value).1 h
    obtain ⟨r', hother⟩ := (haccepts other).1 hother
    cases htext.denotes.unique hq
    cases hother.denotes.unique hr
    exact String.toList_inj.1 (htext.unique hother)
  · rw [haccepts, to_list_to_string]
    exact is_number_text_integer_text hn
  · rw [abs_le] at hn
    have hfits : fits64 n = true := fits64_iff.2 ⟨by omega, by omega⟩
    exact is_canonical_integer_iff.2 ⟨n, hfits, (to_list_to_string n).symm⟩

end Aria.ValueType

end MarkupSemantics
