import Mathlib.Data.List.Infix
import MarkupSemantics.Translation

/-!
# Replacing a text by another

What `replaceAll` does to a text that is put together from parts. `StaysClear` says that no
occurrence begins in a part, so that the part is kept, and `Completes` that a part can be a piece of
an occurrence in some surroundings. A text that completes no occurrence brings none in:
`not_infix_replace_all`.
-/

namespace MarkupSemantics.Translation

/-- `Completes old s` says that in some surroundings of `s` there is an occurrence of `old` that
begins before the end of `s` and ends after its beginning. -/
def Completes (old s : List Char) : Prop :=
  ∃ before after first last, before ++ s ++ after = first ++ old ++ last ∧
    first.length < before.length + s.length ∧ before.length < first.length + old.length

/-- `StaysClear old s rest` says that no occurrence of `old` begins in `s`, where `rest` follows
`s`. -/
def StaysClear (old s rest : List Char) : Prop :=
  ∀ t, t <:+ s → t ≠ [] → ¬ old <+: t ++ rest

variable {old new s rest : List Char} {c : Char}

/-! ### The text before an occurrence and after it -/

/-- Nothing is replaced in an empty text. -/
theorem replace_all_nil : replaceAll old new [] = [] := by
  rw [replaceAll]

/-- An occurrence at the head of a text is replaced, and the rest is searched after it. -/
theorem replace_all_occurrence (hold : old ≠ []) :
    replaceAll old new (old ++ rest) = new ++ replaceAll old new rest := by
  obtain ⟨c, old, rfl⟩ := List.exists_cons_of_ne_nil hold
  have hbegins : (c :: old).isPrefixOf (c :: (old ++ rest)) = true :=
    List.isPrefixOf_iff_prefix.2 (List.prefix_append (c :: old) rest)
  rw [List.cons_append, replaceAll, if_pos hbegins, List.length_cons, Nat.add_sub_cancel,
    List.drop_left]

/-- A character at which no occurrence begins is kept. -/
theorem replace_all_cons (h : ¬ old <+: c :: rest) :
    replaceAll old new (c :: rest) = c :: replaceAll old new rest := by
  rw [replaceAll, if_neg (fun hbegins => h (List.isPrefixOf_iff_prefix.1 hbegins))]

/-- A text is empty, begins with an occurrence, or begins with a character that is kept. -/
theorem occurrence_induction {motive : List Char → Prop} (hold : old ≠ []) (nil : motive [])
    (occurrence : ∀ t, motive t → motive (old ++ t))
    (cons : ∀ c t, ¬ old <+: c :: t → motive t → motive (c :: t)) (s : List Char) : motive s := by
  induction hlength : s.length using Nat.strong_induction_on generalizing s with
  | _ n ih =>
      cases s with
      | nil => exact nil
      | cons c s =>
          by_cases hbegins : old <+: c :: s
          · obtain ⟨t, ht⟩ := hbegins
            have hpos := List.length_pos_of_ne_nil hold
            have hshorter : t.length < n := by
              rw [← hlength, ← ht, List.length_append]
              omega
            rw [← ht]
            exact occurrence t (ih t.length hshorter t rfl)
          · have hshorter : s.length < n := by
              rw [← hlength, List.length_cons]
              omega
            exact cons c s hbegins (ih s.length hshorter s rfl)

/-- No occurrence begins at the first character of a text that stays clear. -/
theorem StaysClear.head (h : StaysClear old (c :: s) rest) : ¬ old <+: c :: (s ++ rest) :=
  h (c :: s) List.suffix_rfl (List.cons_ne_nil c s)

/-- A text that stays clear does so from its second character on. -/
theorem StaysClear.tail (h : StaysClear old (c :: s) rest) : StaysClear old s rest :=
  fun t ht => h t (ht.trans (List.suffix_cons c s))

/-- A single character stays clear if no occurrence begins at it. -/
theorem stays_clear_singleton (h : ¬ old <+: c :: rest) : StaysClear old [c] rest := by
  intro t ht hne
  rcases List.suffix_cons_iff.1 ht with rfl | hnil
  · exact h
  · exact absurd (List.suffix_nil.1 hnil) hne

/-- A text in which no occurrence begins is kept. -/
theorem replace_all_append (h : StaysClear old s rest) :
    replaceAll old new (s ++ rest) = s ++ replaceAll old new rest := by
  induction s with
  | nil => rfl
  | cons c s ih =>
      rw [List.cons_append, replace_all_cons h.head, ih h.tail, List.cons_append]

/-- A whole text that stays clear is kept. -/
theorem replace_all_of_stays_clear (h : StaysClear old s []) : replaceAll old new s = s := by
  have hkept : replaceAll old new (s ++ []) = s ++ replaceAll old new [] := replace_all_append h
  rwa [replace_all_nil, List.append_nil] at hkept

/-- A text without an occurrence is kept. -/
theorem replace_all_of_not_infix (h : ¬ old <:+: s) : replaceAll old new s = s := by
  refine replace_all_of_stays_clear fun t ht _ hbegins => ?_
  rw [List.append_nil] at hbegins
  exact h (hbegins.isInfix.trans ht.isInfix)

/-- An occurrence lies before a character that it does not have. -/
theorem prefix_of_prefix_append_cons (hc : c ∉ old) (h : old <+: s ++ c :: rest) : old <+: s := by
  have hwhole : s ++ [c] <+: s ++ c :: rest := ⟨rest, by simp⟩
  rcases List.prefix_or_prefix_of_prefix h hwhole with hold | hold
  · rcases List.prefix_concat_iff.1 hold with rfl | hold
    · simp at hc
    · exact hold
  · exact absurd (hold.subset (by simp)) hc

/-- An occurrence lies after a text in which none begins. -/
theorem infix_of_infix_append (hclear : StaysClear old s rest) (h : old <:+: s ++ rest) :
    old <:+: rest := by
  induction s with
  | nil => exact h
  | cons c s ih =>
      rcases List.infix_cons_iff.1 h with hhead | htail
      · exact absurd hhead hclear.head
      · exact ih hclear.tail htail

/-- What stands before and after a character that is in no occurrence is replaced on its own. -/
theorem replace_all_append_cons (hold : old ≠ []) (hc : c ∉ old) :
    replaceAll old new (s ++ c :: rest) =
      replaceAll old new s ++ c :: replaceAll old new rest := by
  induction s using occurrence_induction hold with
  | nil =>
      have hnone : ¬ old <+: c :: rest := fun h =>
        hold (List.prefix_nil.1 (prefix_of_prefix_append_cons hc (s := []) h))
      rw [replace_all_nil, List.nil_append, List.nil_append, replace_all_cons hnone]
  | occurrence t ih =>
      rw [List.append_assoc, replace_all_occurrence hold, replace_all_occurrence hold, ih,
        List.append_assoc]
  | cons d t hbegins ih =>
      have hnone : ¬ old <+: d :: (t ++ c :: rest) := fun h =>
        hbegins (prefix_of_prefix_append_cons hc h)
      rw [List.cons_append, replace_all_cons hnone, replace_all_cons hbegins, ih, List.cons_append]

/-! ### Texts that bring no occurrence in -/

/-- No occurrence begins in a text that completes none. -/
theorem stays_clear_of_not_completes (hold : old ≠ []) (h : ¬ Completes old s)
    (rest : List Char) : StaysClear old s rest := by
  rintro t ⟨first, rfl⟩ hne ⟨last, hlast⟩
  refine h ⟨[], rest, first, last, ?_, ?_, ?_⟩
  · rw [List.nil_append, List.append_assoc, ← hlast, List.append_assoc]
  · have := List.length_pos_of_ne_nil hne
    rw [List.length_append, List.length_nil]
    omega
  · have := List.length_pos_of_ne_nil hold
    rw [List.length_nil]
    omega

/-- An occurrence that has begun does not go on into a text that completes none. -/
theorem not_prefix_of_not_completes {begun left : List Char} (hold : old = begun ++ left)
    (hbegun : begun ≠ []) (hleft : left ≠ []) (h : ¬ Completes old s) : ¬ left <+: s ++ rest := by
  rintro ⟨last, hlast⟩
  refine h ⟨begun, rest, [], last, ?_, ?_, ?_⟩
  · rw [hold, List.append_assoc, ← hlast, List.nil_append, List.append_assoc]
  · have := List.length_pos_of_ne_nil hbegun
    rw [List.length_nil]
    omega
  · have := List.length_pos_of_ne_nil hleft
    rw [hold, List.length_append, List.length_nil]
    omega

/-- The rest of an occurrence stands in the text after a replacement only if it stood there
before. -/
theorem prefix_of_prefix_replace_all {begun left : List Char} (hold : old = begun ++ left)
    (hbegun : begun ≠ []) (h : ¬ Completes old new) (hleft : left <+: replaceAll old new s) :
    left <+: s := by
  induction s generalizing begun left with
  | nil => rwa [replace_all_nil] at hleft
  | cons c s ih =>
      cases left with
      | nil => exact List.nil_prefix
      | cons d left =>
          by_cases hbegins : old <+: c :: s
          · obtain ⟨t, ht⟩ := hbegins
            have hne : old ≠ [] := by simp [hold]
            rw [← ht, replace_all_occurrence hne] at hleft
            exact absurd hleft (not_prefix_of_not_completes hold hbegun (List.cons_ne_nil d left) h)
          · rw [replace_all_cons hbegins, List.cons_prefix_cons] at hleft
            obtain ⟨rfl, hleft⟩ := hleft
            have hmore : old = (begun ++ [d]) ++ left := by simp [hold]
            rw [List.cons_prefix_cons]
            exact ⟨rfl, ih hmore (by simp) hleft⟩

/-- After a replacement by a text that completes no occurrence, there is none. -/
theorem not_infix_replace_all (hold : old ≠ []) (h : ¬ Completes old new) (s : List Char) :
    ¬ old <:+: replaceAll old new s := by
  induction s using occurrence_induction hold with
  | nil =>
      rw [replace_all_nil, List.infix_nil]
      exact hold
  | occurrence t ih =>
      rw [replace_all_occurrence hold]
      exact fun hinfix => ih (infix_of_infix_append (stays_clear_of_not_completes hold h _) hinfix)
  | cons c t hbegins ih =>
      rw [replace_all_cons hbegins, List.infix_cons_iff, not_or]
      refine ⟨fun hhead => hbegins ?_, ih⟩
      obtain ⟨d, left, rfl⟩ := List.exists_cons_of_ne_nil hold
      obtain ⟨rfl, hleft⟩ := List.cons_prefix_cons.1 hhead
      have hbegun : d :: left = [d] ++ left := rfl
      rw [List.cons_prefix_cons]
      exact ⟨rfl, prefix_of_prefix_replace_all hbegun (by simp) h hleft⟩

/-- A replacement by a text that completes no occurrence changes exactly the texts with one. -/
theorem replace_all_eq_self_iff (hold : old ≠ []) (h : ¬ Completes old new) :
    replaceAll old new s = s ↔ ¬ old <:+: s := by
  refine ⟨fun hsame => ?_, replace_all_of_not_infix⟩
  rw [← hsame]
  exact not_infix_replace_all hold h s

end MarkupSemantics.Translation
