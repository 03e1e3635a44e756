import Mathlib.Data.List.TakeWhile
import MarkupSemantics.Text.Blank

/-!
# White space around a text

A text is `Tight` if no white space stands at either end of it. `trim_padded` says trimming gives
back a tight text from what it becomes with white space around it. The first word of a text is what
stands between white space and a text that `EndsWord`; `exists_first_word` finds it in every text
that is not blank.
-/

namespace MarkupSemantics.Text

/-- `Tight cs` says the text `cs` neither starts nor ends with white space. -/
structure Tight (cs : List Char) : Prop where
  /-- The first character is no white space. -/
  first : ∀ c ∈ cs.head?, isBlank c = false
  /-- The last character is no white space. -/
  last : ∀ c ∈ cs.getLast?, isBlank c = false

namespace Tight

variable {cs ds : List Char}

/-- Tight texts after each other are tight. -/
theorem append (h : Tight cs) (hmore : Tight ds) : Tight (cs ++ ds) where
  first c hc := by
    rw [List.head?_append, Option.mem_def, Option.or_eq_some_iff] at hc
    rcases hc with hc | ⟨_, hc⟩
    · exact h.first c hc
    · exact hmore.first c hc
  last c hc := by
    rw [List.getLast?_append, Option.mem_def, Option.or_eq_some_iff] at hc
    rcases hc with hc | ⟨_, hc⟩
    · exact hmore.last c hc
    · exact h.last c hc

/-- A text without white space is tight. -/
theorem of_solid (h : ∀ c ∈ cs, isBlank c = false) : Tight cs where
  first c hc := h c (List.mem_of_head? hc)
  last c hc := h c (List.mem_of_getLast? hc)

/-- A text is tight if it stands between two characters that are no white space. -/
theorem enclosed {opening closing : Char} (hopening : isBlank opening = false)
    (hclosing : isBlank closing = false) (cs : List Char) : Tight (opening :: cs ++ [closing]) where
  first c hc := by
    cases hc
    exact hopening
  last c hc := by
    rw [List.getLast?_concat] at hc
    cases hc
    exact hclosing

end Tight

/-- White space at the start is trimmed. -/
theorem trim_start_append {before : List Char} (h : ∀ c ∈ before, isBlank c = true)
    (cs : List Char) : trimStart (before ++ cs) = trimStart cs :=
  List.dropWhile_append_of_pos h

/-- White space at the end is trimmed. -/
theorem trim_end_append {after : List Char} (h : ∀ c ∈ after, isBlank c = true)
    (cs : List Char) : trimEnd (cs ++ after) = trimEnd cs := by
  rw [trimEnd, trimEnd, List.reverse_append,
    List.dropWhile_append_of_pos fun c hc => h c (List.mem_reverse.1 hc)]

/-- A text that does not begin with white space has nothing to trim at the start. -/
theorem trim_start_of_tight {cs : List Char} (h : ∀ c ∈ cs.head?, isBlank c = false) :
    trimStart cs = cs := by
  cases cs with
  | nil => rfl
  | cons c cs => exact List.dropWhile_cons_of_neg (by simp [h c rfl])

/-- A text that does not end with white space has nothing to trim at the end. -/
theorem trim_end_of_tight {cs : List Char} (h : ∀ c ∈ cs.getLast?, isBlank c = false) :
    trimEnd cs = cs := by
  have hreverse : trimStart cs.reverse = cs.reverse :=
    trim_start_of_tight fun c hc => h c (List.head?_reverse ▸ hc)
  rw [trimEnd, ← trimStart, hreverse, List.reverse_reverse]

/-- Trimming takes away the white space around a tight text, and nothing else. -/
theorem trim_padded {before cs after : List Char} (hbefore : ∀ c ∈ before, isBlank c = true)
    (h : Tight cs) (hafter : ∀ c ∈ after, isBlank c = true) :
    trim (before ++ cs ++ after) = cs := by
  rw [trim, List.append_assoc, trim_start_append hbefore]
  cases cs with
  | nil =>
      -- nothing is left for the trimming at the end
      have hblank := trim_start_append hafter []
      rw [List.append_nil] at hblank
      rw [List.nil_append, hblank]
      rfl
  | cons c cs =>
      rw [trim_start_of_tight (by simpa using h.first c rfl), trim_end_append hafter,
        trim_end_of_tight h.last]

/-- A tight text has nothing to trim. -/
theorem trim_of_tight {cs : List Char} (h : Tight cs) : trim cs = cs := by
  have hnone : ∀ c ∈ ([] : List Char), isBlank c = true := by simp
  have hpadded := trim_padded hnone h hnone
  rwa [List.nil_append, List.append_nil] at hpadded

/-! ### The first word -/

/-- `EndsWord rest` says a word ends where `rest` follows: nothing follows, or white space. -/
def EndsWord (rest : List Char) : Prop :=
  ∀ c ∈ rest.head?, isBlank c = true

section Words

variable {before word rest : List Char}

/-- Where a word ends, nothing more of it follows. -/
theorem take_while_is_solid (h : EndsWord rest) : rest.takeWhile isSolid = [] := by
  cases rest with
  | nil => rfl
  | cons c rest => exact List.takeWhile_cons_of_neg (by simp [isSolid, h c rfl])

/-- A text that starts with a word and goes on with white space has that word first. -/
theorem first_word_append (hne : word ≠ []) (hword : ∀ c ∈ word, isBlank c = false)
    (h : EndsWord rest) : firstWord (word ++ rest) = word := by
  obtain ⟨c, word, rfl⟩ := List.exists_cons_of_ne_nil hne
  have hfirst : isBlank c = false := hword c List.mem_cons_self
  have hsolid : ∀ d ∈ c :: word, isSolid d = true := fun d hd => by simp [isSolid, hword d hd]
  rw [firstWord, List.cons_append, List.dropWhile_cons_of_neg (by simp [hfirst]),
    ← List.cons_append, List.takeWhile_append_of_pos hsolid, take_while_is_solid h,
    List.append_nil]

/-- The first word has no white space in it. -/
theorem is_blank_of_mem_first_word {cs : List Char} {c : Char} (h : c ∈ firstWord cs) :
    isBlank c = false := by
  simpa [isSolid] using List.mem_takeWhile_imp h

/-- A word ends after all that is not white space. -/
theorem ends_word_drop_while (cs : List Char) : EndsWord (cs.dropWhile isSolid) := by
  intro c hc
  have hstop := List.head?_dropWhile_not isSolid cs
  rw [hc] at hstop
  simpa [isSolid] using hstop

/-- A text that is not blank has a first word. -/
theorem first_word_ne_nil {cs : List Char} (h : ¬ ∀ c ∈ cs, isBlank c = true) :
    firstWord cs ≠ [] := by
  have hrest := List.head?_dropWhile_not isBlank cs
  rw [firstWord]
  cases hdrop : cs.dropWhile isBlank with
  | nil => exact absurd (List.dropWhile_eq_nil_iff.1 hdrop) h
  | cons c rest =>
      rw [hdrop] at hrest
      have hsolid : isSolid c = true := by simpa [isSolid] using hrest
      rw [List.takeWhile_cons_of_pos hsolid]
      exact List.cons_ne_nil _ _

/-- A text that is not blank is white space, a word, and what ends the word. -/
theorem exists_first_word {cs : List Char} (h : ¬ ∀ c ∈ cs, isBlank c = true) :
    ∃ before word rest, cs = before ++ word ++ rest ∧ (∀ c ∈ before, isBlank c = true) ∧
      word ≠ [] ∧ (∀ c ∈ word, isBlank c = false) ∧ EndsWord rest := by
  refine ⟨cs.takeWhile isBlank, firstWord cs, (cs.dropWhile isBlank).dropWhile isSolid, ?_,
    fun _ => List.mem_takeWhile_imp, first_word_ne_nil h, fun _ => is_blank_of_mem_first_word,
    ends_word_drop_while _⟩
  rw [List.append_assoc, firstWord, List.takeWhile_append_dropWhile,
    List.takeWhile_append_dropWhile]

/-- Trimming at the end does not reach a text without white space at its end. -/
theorem trim_end_append_of_tight (h : ∀ c ∈ word.getLast?, isBlank c = false)
    (rest : List Char) : trimEnd (word ++ rest) = word ++ trimEnd rest := by
  rw [trimEnd, trimEnd, List.reverse_append, List.dropWhile_append]
  split
  · rename_i hblank
    rw [List.isEmpty_iff.1 hblank, List.reverse_nil, List.append_nil, ← trimEnd,
      trim_end_of_tight h]
  · rw [List.reverse_append, List.reverse_reverse]

/-- Trimming takes away the white space before the first word and keeps the word. -/
theorem trim_word (hbefore : ∀ c ∈ before, isBlank c = true) (hne : word ≠ [])
    (hword : ∀ c ∈ word, isBlank c = false) (rest : List Char) :
    trim (before ++ word ++ rest) = word ++ trimEnd rest := by
  have htight : Tight word := .of_solid hword
  have hstart : ∀ c ∈ (word ++ rest).head?, isBlank c = false := by
    obtain ⟨c, word, rfl⟩ := List.exists_cons_of_ne_nil hne
    exact htight.first
  rw [trim, List.append_assoc, trim_start_append hbefore, trim_start_of_tight hstart,
    trim_end_append_of_tight htight.last]

/-- Where a word ends, it ends after trimming too. -/
theorem EndsWord.trim_end (h : EndsWord rest) : EndsWord (trimEnd rest) := by
  have hprefix : trimEnd rest <+: rest := by
    rw [← List.reverse_suffix, trimEnd, List.reverse_reverse]
    exact List.dropWhile_suffix isBlank
  obtain ⟨after, hafter⟩ := hprefix
  intro c hc
  refine h c ?_
  rw [← hafter, List.head?_append, hc]
  rfl

end Words

end MarkupSemantics.Text
