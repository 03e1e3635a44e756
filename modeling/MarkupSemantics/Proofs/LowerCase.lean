import MarkupSemantics.Proofs.WhiteSpace
import MarkupSemantics.Text.Casing

/-!
# Lower case and white space

Lower-casing neither makes nor removes white space, and it does not look across it: white space is
neither cased nor case-ignorable, so the search for a cased character that decides about a final
sigma ends there. Both are read off the tables, of which `Apart` compares the ranges. The main
statement is `first_word_lowercase`: a word is lower-cased as it would be on its own.
-/

namespace MarkupSemantics.Text

/-! ### White space in the tables -/

/-- The ranges of code points of white space. -/
def blankRanges : List (Nat × Nat) := [
  (0x9, 0xD), (0x20, 0x20), (0x85, 0x85), (0xA0, 0xA0), (0x1680, 0x1680), (0x2000, 0x200A),
  (0x2028, 0x2029), (0x202F, 0x202F), (0x205F, 0x205F), (0x3000, 0x3000)]

/-- White space is listed as ranges of code points. -/
theorem is_blank_eq (c : Char) : isBlank c = inRanges blankRanges c.toNat := by
  simp only [isBlank, inRanges, blankRanges, List.any_cons, List.any_nil]
  grind

/-- `Apart ranges others` says no range of the one list meets one of the other. -/
def Apart (ranges others : List (Nat × Nat)) : Prop :=
  ∀ a ∈ ranges, ∀ b ∈ others, a.2 < b.1 ∨ b.2 < a.1

/-- A number is in some ranges exactly if it lies between the ends of one of them. -/
theorem in_ranges_iff {ranges : List (Nat × Nat)} {n : Nat} :
    inRanges ranges n = true ↔ ∃ a ∈ ranges, a.1 ≤ n ∧ n ≤ a.2 := by
  simp [inRanges]

/-- A number in one list of ranges is in no range of a list that is apart from it. -/
theorem Apart.in_ranges_eq_false {ranges others : List (Nat × Nat)} (h : Apart ranges others)
    {n : Nat} (hn : inRanges ranges n = true) : inRanges others n = false := by
  obtain ⟨a, ha, hafirst, halast⟩ := in_ranges_iff.1 hn
  refine Bool.eq_false_iff.2 fun hother => ?_
  obtain ⟨b, hb, hbfirst, hblast⟩ := in_ranges_iff.1 hother
  rcases h a ha b hb with hlt | hlt <;> omega

/-- White space is not cased. -/
theorem is_cased_of_is_blank {c : Char} (h : isBlank c = true) : isCased c = false := by
  have hapart : Apart blankRanges casedRanges := by
    unfold Apart
    decide +kernel
  exact hapart.in_ranges_eq_false (is_blank_eq c ▸ h)

/-- White space is not case-ignorable. -/
theorem is_case_ignorable_of_is_blank {c : Char} (h : isBlank c = true) :
    isCaseIgnorable c = false := by
  have hapart : Apart blankRanges caseIgnorableRanges := by
    unfold Apart
    decide +kernel
  exact hapart.in_ranges_eq_false (is_blank_eq c ▸ h)

/-- No run of the lower-case mapping starts from white space. -/
theorem is_blank_of_covers {run : CaseRun} (hrun : run ∈ lowercaseRuns) {c : Char}
    (h : run.covers c.toNat = true) : isBlank c = false := by
  have hapart : Apart (lowercaseRuns.map fun run => (run.first, run.last)) blankRanges := by
    unfold Apart
    decide +kernel
  rw [is_blank_eq]
  refine hapart.in_ranges_eq_false (in_ranges_iff.2 ⟨_, List.mem_map_of_mem hrun, ?_⟩)
  simp only [CaseRun.covers, Bool.and_eq_true, decide_eq_true_eq] at h
  exact h.1

/-- No run of the lower-case mapping leads to white space. -/
theorem in_blank_ranges_image {run : CaseRun} (hrun : run ∈ lowercaseRuns) {n : Nat}
    (h : run.covers n = true) : inRanges blankRanges (run.image n) = false := by
  have hapart : Apart (lowercaseRuns.map fun run => (run.image run.first, run.image run.last))
      blankRanges := by
    unfold Apart
    decide +kernel
  refine hapart.in_ranges_eq_false (in_ranges_iff.2 ⟨_, List.mem_map_of_mem hrun, ?_⟩)
  simp only [CaseRun.covers, Bool.and_eq_true, decide_eq_true_eq] at h
  simp only [CaseRun.image]
  omega

/-- A number that belongs to no character stands for U+0000, which is no white space. -/
theorem is_blank_of_nat {n : Nat} (h : inRanges blankRanges n = false) :
    isBlank (Char.ofNat n) = false := by
  rw [is_blank_eq, Char.ofNat]
  by_cases hvalid : n.isValidChar
  · rw [dif_pos hvalid]
    exact h
  · rw [dif_neg hvalid]
    rfl

/-- The simple lower-case mapping keeps white space and makes none. -/
theorem is_blank_simple_lower (c : Char) : isBlank (simpleLower c) = isBlank c := by
  rw [simpleLower]
  cases hmapped : CaseRun.map? lowercaseRuns c.toNat with
  | none => rfl
  | some n =>
      obtain ⟨run, hfound, rfl⟩ := Option.map_eq_some_iff.1 hmapped
      have hrun := List.mem_of_find?_eq_some hfound
      have hcovers := List.find?_some hfound
      rw [is_blank_of_covers hrun hcovers]
      exact is_blank_of_nat (in_blank_ranges_image hrun hcovers)

/-- The lower case of a character is white space exactly if the character is. -/
theorem is_blank_of_mem_lower_char {c d : Char} (h : d ∈ lowerChar c) : isBlank d = isBlank c := by
  rw [lowerChar] at h
  split at h
  · rename_i hdotted
    rw [hdotted]
    rcases List.mem_cons.1 h with rfl | h
    · rfl
    · rw [List.mem_singleton.1 h]
      rfl
  · rw [List.mem_singleton.1 h, is_blank_simple_lower]

/-! ### The lower case of a character in a text -/

/-- `lowerBetween before c after` is the lower case of `c` where it stands between `after` and the
text whose reverse is `before`. -/
def lowerBetween (before : List Char) (c : Char) (after : List Char) : List Char :=
  if c = 'Σ' then [lowerSigma before after] else lowerChar c

/-- The lower case of a text is that of its first character and then of the rest. -/
theorem lowercase_after_cons (before : List Char) (c : Char) (cs : List Char) :
    lowercaseAfter before (c :: cs) =
      lowerBetween before c cs ++ lowercaseAfter (c :: before) cs :=
  rfl

section Between

variable {before after rest word : List Char} {c d : Char}

/-- The lower case of a character is not empty. -/
theorem lower_between_ne_nil : lowerBetween before c after ≠ [] := by
  unfold lowerBetween lowerChar
  split
  · exact List.cons_ne_nil _ _
  · split <;> exact List.cons_ne_nil _ _

/-- The lower case of a sigma is no white space. -/
theorem is_blank_lower_sigma (before after : List Char) :
    isBlank (lowerSigma before after) = false := by
  rw [lowerSigma]
  split <;> rfl

/-- The lower case of white space is white space, and of no other character. -/
theorem is_blank_of_mem_lower_between (h : d ∈ lowerBetween before c after) :
    isBlank d = isBlank c := by
  rw [lowerBetween] at h
  split at h
  · rename_i hsigma
    rw [List.mem_singleton.1 h, is_blank_lower_sigma, hsigma]
    rfl
  · exact is_blank_of_mem_lower_char h

/-- The search for a cased character ends where a word ends. -/
theorem meets_cased_append (h : EndsWord rest) (after : List Char) :
    meetsCased (after ++ rest) = meetsCased after := by
  rw [meetsCased, meetsCased, List.dropWhile_append]
  cases after.dropWhile isCaseIgnorable with
  | cons c ignored => rfl
  | nil =>
      rw [List.isEmpty_nil, if_pos rfl]
      cases rest with
      | nil => rfl
      | cons c rest =>
          have hblank : isBlank c = true := h c rfl
          rw [List.dropWhile_cons_of_neg (by simp [is_case_ignorable_of_is_blank hblank])]
          exact is_cased_of_is_blank hblank

/-- What follows the end of a word has no part in the lower case of a character before it. -/
theorem lower_between_append (h : EndsWord rest) (before : List Char) (c : Char)
    (after : List Char) : lowerBetween before c (after ++ rest) = lowerBetween before c after := by
  rw [lowerBetween, lowerBetween, lowerSigma, lowerSigma, meets_cased_append h]

/-! ### The lower case of a text -/

/-- What follows the end of a word has no part in the lower case of the word. -/
theorem lowercase_after_append (h : EndsWord rest) (before word : List Char) :
    lowercaseAfter before (word ++ rest) =
      lowercaseAfter before word ++ lowercaseAfter (word.reverse ++ before) rest := by
  induction word generalizing before with
  | nil => rfl
  | cons c word ih =>
      rw [List.cons_append, lowercase_after_cons, lowercase_after_cons, lower_between_append h, ih,
        List.reverse_cons, List.append_assoc, List.append_assoc]
      rfl

/-- Where a word ends, it ends in lower case too. -/
theorem EndsWord.lowercase_after (h : EndsWord rest) (before : List Char) :
    EndsWord (lowercaseAfter before rest) := by
  cases rest with
  | nil => exact h
  | cons c rest =>
      have hne : lowerBetween before c rest ≠ [] := lower_between_ne_nil
      obtain ⟨d, lowered, hlowered⟩ := List.exists_cons_of_ne_nil hne
      have hmem : d ∈ lowerBetween before c rest := hlowered ▸ List.mem_cons_self
      intro first hfirst
      rw [lowercase_after_cons, hlowered] at hfirst
      cases hfirst
      rw [is_blank_of_mem_lower_between hmem]
      exact h c rfl

/-- Lower-casing makes no white space. -/
theorem is_blank_of_mem_lowercase_after (h : ∀ c ∈ word, isBlank c = false) (before : List Char) :
    ∀ d ∈ lowercaseAfter before word, isBlank d = false := by
  induction word generalizing before with
  | nil => simp [lowercaseAfter]
  | cons c word ih =>
      intro d hd
      rw [lowercase_after_cons, List.mem_append] at hd
      rcases hd with hd | hd
      · rw [is_blank_of_mem_lower_between hd]
        exact h c List.mem_cons_self
      · exact ih (fun c hc => h c (List.mem_cons_of_mem _ hc)) _ d hd

/-- The lower case of a text is empty only if the text is. -/
theorem lowercase_ne_nil (h : word ≠ []) : lowercase word ≠ [] := by
  obtain ⟨c, word, rfl⟩ := List.exists_cons_of_ne_nil h
  rw [lowercase, lowercase_after_cons]
  exact List.append_ne_nil_of_left_ne_nil lower_between_ne_nil _

/-- The first word of a text in lower case is its first word in lower case. -/
theorem first_word_lowercase (hne : word ≠ []) (hword : ∀ c ∈ word, isBlank c = false)
    (h : EndsWord rest) : firstWord (lowercase (word ++ rest)) = lowercase word := by
  have hlowered : lowercase (word ++ rest) =
      lowercase word ++ lowercaseAfter (word.reverse ++ []) rest :=
    lowercase_after_append h [] word
  rw [hlowered]
  exact first_word_append (lowercase_ne_nil hne) (is_blank_of_mem_lowercase_after hword [])
    (h.lowercase_after _)

end Between

end MarkupSemantics.Text
