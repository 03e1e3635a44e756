import Mathlib.Data.List.Basic
import MarkupSemantics.Tree.Selector

/-!
# Scanning a selector

The scan that cuts a selector at the commas between its compounds. `compounds_append` says a text
that closes its own quotes, brackets and parentheses can be cut off at the comma that follows it,
whatever comes next. `Scan.Passes s cs t` says the scan gets from `s` to `t` through the text `cs`
without meeting such a comma, and a text is `Whole` if it brings the scan back to where it was, at
every depth of nesting; a whole text is one compound.
-/

namespace MarkupSemantics.Tree.Selector

/-- `s.after cs` is where the scan is after the text `cs`. -/
def Scan.after (s : Scan) (cs : List Char) : Scan :=
  cs.foldl Scan.next s

/-- `Closes cs` says the text `cs` closes its own quotes, brackets and parentheses: a scan of it
alone ends where it began. -/
def Closes (cs : List Char) : Prop :=
  Scan.after ⟨none, 0⟩ cs = ⟨none, 0⟩

instance (cs : List Char) : Decidable (Closes cs) :=
  inferInstanceAs (Decidable (_ = _))

/-! ### Cutting at a comma -/

/-- A list with a character in front has a first part. -/
theorem cons_head_ne_nil (c : Char) (parts : List (List Char)) : consHead c parts ≠ [] := by
  cases parts <;> exact List.cons_ne_nil _ _

/-- A text has at least one compound. -/
theorem compounds_from_ne_nil (s : Scan) (cs : List Char) : compoundsFrom s cs ≠ [] := by
  cases cs with
  | nil => exact List.cons_ne_nil _ _
  | cons c cs =>
      rw [compoundsFrom]
      split
      · exact List.cons_ne_nil _ _
      · exact cons_head_ne_nil c _

/-- A character in front of a list belongs to the first part of it. -/
theorem cons_head_append {parts : List (List Char)} (h : parts ≠ []) (c : Char)
    (others : List (List Char)) : consHead c (parts ++ others) = consHead c parts ++ others := by
  cases parts with
  | nil => exact absurd rfl h
  | cons part parts => rfl

/-- A comma between compounds leaves the scan where it is. -/
theorem Scan.next_of_is_separator {s : Scan} {c : Char} (h : s.isSeparator c = true) :
    s.next c = s := by
  obtain ⟨quote, depth⟩ := s
  simp only [Scan.isSeparator, Bool.and_eq_true, Option.isNone_iff_eq_none, beq_iff_eq] at h
  obtain ⟨⟨rfl, rfl⟩, rfl⟩ := h
  rfl

/-- Where the scan ends outside everything, a comma ends the last compound. -/
theorem compounds_from_append {s : Scan} {cs : List Char} (h : s.after cs = ⟨none, 0⟩)
    (ds : List Char) :
    compoundsFrom s (cs ++ ',' :: ds) = compoundsFrom s cs ++ compounds ds := by
  induction cs generalizing s with
  | nil =>
      cases h
      rfl
  | cons c cs ih =>
      have hrest := ih (s := s.next c) h
      rw [List.cons_append, compoundsFrom, compoundsFrom]
      split
      · rename_i hcomma
        -- a comma that ends a compound does not move the scan
        rw [Scan.next_of_is_separator hcomma] at hrest
        rw [hrest, List.cons_append]
      · rw [hrest, cons_head_append (compounds_from_ne_nil _ cs)]

/-- A text that closes what it opens is cut off at the comma that follows it. -/
theorem compounds_append {cs : List Char} (h : Closes cs) (ds : List Char) :
    compounds (cs ++ ',' :: ds) = compounds cs ++ compounds ds :=
  compounds_from_append h ds

/-- Alternatives that close what they open do not touch each other: the compounds of all of them,
with commas between them, are those of one after the other. -/
theorem compounds_intercalate {selector : List Char} {selectors : List (List Char)}
    (h : ∀ cs ∈ selector :: selectors, Closes cs) :
    compounds ([','].intercalate (selector :: selectors)) =
      (selector :: selectors).flatMap compounds := by
  induction selectors generalizing selector with
  | nil => simp
  | cons next selectors ih =>
      obtain ⟨hselector, hrest⟩ := List.forall_mem_cons.1 h
      rw [List.intercalate_cons_cons, List.append_assoc, List.singleton_append,
        compounds_append hselector, ih hrest, List.flatMap_cons (x := selector)]

/-! ### Texts without a comma between compounds -/

/-- `s.Passes cs t` says the scan gets from `s` to `t` through the text `cs` and meets no comma
between compounds. -/
inductive Scan.Passes : Scan → List Char → Scan → Prop where
  | nil (s) : Passes s [] s
  | cons {s c next cs t} :
      s.isSeparator c = false → s.next c = next → Passes next cs t → Passes s (c :: cs) t

namespace Scan.Passes

variable {s t u : Scan} {cs ds : List Char}

/-- A scan that passes one text and then another passes both. -/
theorem append (h : s.Passes cs t) (hmore : t.Passes ds u) : s.Passes (cs ++ ds) u := by
  induction h with
  | nil => exact hmore
  | cons hc hnext _ ih => exact .cons hc hnext (ih hmore)

/-- What the scan passes leads to where it ends. -/
theorem after_eq (h : s.Passes cs t) : s.after cs = t := by
  induction h with
  | nil => rfl
  | cons _ hnext _ ih =>
      cases hnext
      exact ih

/-- What the scan passes is not cut. -/
theorem compounds_from_eq (h : s.Passes cs t) : compoundsFrom s cs = [cs] := by
  induction h with
  | nil => rfl
  | cons hc hnext _ ih =>
      rw [compoundsFrom, hc, if_neg Bool.false_ne_true, hnext, ih, consHead]

/-- Inside quotes the scan passes everything up to the closing quote. -/
theorem quoted {quote : Char} (h : quote ∉ cs) (depth : Nat) :
    Passes ⟨some quote, depth⟩ cs ⟨some quote, depth⟩ := by
  induction cs with
  | nil => exact .nil _
  | cons c cs ih =>
      have hc : c ≠ quote := fun heq => h (heq ▸ List.mem_cons_self)
      exact .cons rfl (if_neg hc) (ih fun hmem => h (List.mem_cons_of_mem c hmem))

end Scan.Passes

/-- The characters that a scan of a selector takes notice of. -/
def marks : List Char :=
  ['\'', '"', '(', '[', ')', ']', ',']

/-- `Whole cs` says the scan passes the text `cs` and is back where it was, at every depth. -/
def Whole (cs : List Char) : Prop :=
  ∀ depth, Scan.Passes ⟨none, depth⟩ cs ⟨none, depth⟩

namespace Whole

variable {cs ds : List Char}

/-- Whole texts after each other are whole. -/
theorem append (h : Whole cs) (hmore : Whole ds) : Whole (cs ++ ds) :=
  fun depth => (h depth).append (hmore depth)

/-- A text without marks is whole. -/
theorem of_plain (h : ∀ c ∈ cs, c ∉ marks) : Whole cs := by
  intro depth
  induction cs with
  | nil => exact .nil _
  | cons c cs ih =>
      obtain ⟨hc, hcs⟩ := List.forall_mem_cons.1 h
      simp only [marks, List.mem_cons, List.not_mem_nil, or_false, not_or] at hc
      exact .cons (by simp [Scan.isSeparator, hc]) (by simp [Scan.next, hc]) (ih hcs)

/-- A text between quotes is whole if it does not contain the quote. -/
theorem quoted {quote : Char} (hquote : quote = '\'' ∨ quote = '"') (h : quote ∉ cs) :
    Whole (quote :: cs ++ [quote]) := by
  intro depth
  have hcomma : quote ≠ ',' := by rcases hquote with rfl | rfl <;> decide
  have hclose : Scan.Passes ⟨some quote, depth⟩ [quote] ⟨none, depth⟩ :=
    .cons rfl (if_pos rfl) (.nil _)
  refine .cons (by simp [Scan.isSeparator, hcomma]) (if_pos hquote) ?_
  exact (Scan.Passes.quoted h depth).append hclose

/-- A whole text between brackets or parentheses is whole. -/
theorem bracketed {opening closing : Char} (hopening : opening = '(' ∨ opening = '[')
    (hclosing : closing = ')' ∨ closing = ']') (h : Whole cs) :
    Whole (opening :: cs ++ [closing]) := by
  intro depth
  have hopen : Scan.next ⟨none, depth⟩ opening = ⟨none, depth + 1⟩ := by
    rcases hopening with rfl | rfl <;> rfl
  have hclose : Scan.next ⟨none, depth + 1⟩ closing = ⟨none, depth⟩ := by
    rcases hclosing with rfl | rfl <;> rfl
  have hcomma : opening ≠ ',' := by rcases hopening with rfl | rfl <;> decide
  refine .cons (by simp [Scan.isSeparator, hcomma]) hopen ?_
  exact (h (depth + 1)).append (.cons rfl hclose (.nil _))

/-- A whole text closes what it opens. -/
theorem closes (h : Whole cs) : Closes cs :=
  (h 0).after_eq

/-- A whole text is one compound. -/
theorem compounds_eq (h : Whole cs) : compounds cs = [cs] :=
  (h 0).compounds_from_eq

/-- Whole texts with commas between them are cut back into the texts. -/
theorem compounds_intercalate {selector : List Char} {selectors : List (List Char)}
    (h : ∀ cs ∈ selector :: selectors, Whole cs) :
    compounds ([','].intercalate (selector :: selectors)) = selector :: selectors := by
  have hcompounds : (selector :: selectors).flatMap compounds =
      (selector :: selectors).flatMap fun cs => [cs] :=
    List.flatMap_congr fun cs hcs => (h cs hcs).compounds_eq
  rw [Selector.compounds_intercalate fun cs hcs => (h cs hcs).closes, hcompounds,
    List.flatMap_singleton']

end Whole

end MarkupSemantics.Tree.Selector
