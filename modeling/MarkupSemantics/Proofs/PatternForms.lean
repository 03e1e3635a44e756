import MarkupSemantics.Pattern

/-!
# The forms of patterns

A pattern has the form of a regular expression if it is `Delimited`: a body between two slashes, and
flags. The body may have slashes in it, while the flags have none, so that the form is found at the
last slash (`delimited?_eq_some_iff`). All else that is said here holds for every `Engine`. The main
statement is `is_match_of_form`.
-/

namespace MarkupSemantics.Pattern

/-- `Delimited pattern body flags` says `pattern` is `body` between slashes, with something in it
and no line feed, followed by `flags`, which are `i`, `g` and `m` in any order and number. -/
structure Delimited (pattern : String) (body flags : List Char) : Prop where
  /-- The pattern is a slash, the body, a slash and the flags. -/
  chars_eq : pattern.toList = '/' :: (body ++ '/' :: flags)
  /-- The body is not empty. -/
  body_ne_nil : body ≠ []
  /-- The body lies on one line. -/
  line_feed_not_mem : '\n' ∉ body
  /-- There are no other flags. -/
  flags_known : ∀ c ∈ flags, c = 'i' ∨ c = 'g' ∨ c = 'm'

variable {pattern : String} {body flags : List Char}

/-! ### The form of a regular expression -/

/-- The flags are the letters `i`, `g` and `m`. -/
theorem is_flag_iff {c : Char} : isFlag c = true ↔ c = 'i' ∨ c = 'g' ∨ c = 'm' := by
  simp [isFlag, or_assoc]

/-- There is no slash among flags. -/
theorem Delimited.slash_not_mem (h : Delimited pattern body flags) : '/' ∉ flags := by
  intro hmem
  rcases h.flags_known '/' hmem with heq | heq | heq
  · cases heq
  · cases heq
  · cases heq

/-- The form is found exactly where there is one. -/
theorem delimited?_eq_some_iff :
    delimited? pattern.toList = some (body, flags) ↔ Delimited pattern body flags := by
  constructor
  · intro h
    rw [delimited?.eq_def] at h
    split at h
    · rename_i rest hslash
      split at h
      · rename_i before after hsplit
        split at h
        · cases h
        · rename_i hform
          cases h
          obtain ⟨rfl, _⟩ := Text.split_last_eq_some.1 hsplit
          simp only [Bool.or_eq_true, Bool.not_eq_true', not_or, Bool.not_eq_true,
            Bool.not_eq_false] at hform
          obtain ⟨⟨hempty, hline⟩, hflags⟩ := hform
          refine ⟨hslash, ?_, ?_, fun c hc => is_flag_iff.1 (List.all_eq_true.1 hflags c hc)⟩
          · rintro rfl
            cases hempty
          · rw [← List.contains_iff_mem, hline]
            exact Bool.false_ne_true
      · cases h
    · cases h
  · intro h
    have hsplit : Text.splitLast '/' (body ++ '/' :: flags) = some (body, flags) :=
      Text.split_last_eq_some.2 ⟨rfl, h.slash_not_mem⟩
    have hempty : body.isEmpty = false := by
      rw [List.isEmpty_eq_false_iff]
      exact h.body_ne_nil
    have hline : '\n' ∉ body := h.line_feed_not_mem
    have hflags : flags.all isFlag = true :=
      List.all_eq_true.2 fun c hc => is_flag_iff.2 (h.flags_known c hc)
    rw [h.chars_eq, delimited?, hsplit]
    simp [hempty, hline, hflags]

/-- A text is not cut exactly if it has not the form of a delimited pattern. -/
theorem delimited?_eq_none_iff :
    delimited? pattern.toList = none ↔ ¬∃ body flags, Delimited pattern body flags := by
  simp only [← delimited?_eq_some_iff]
  rw [Option.eq_none_iff_forall_ne_some]
  simp

/-- A pattern has the form in one way. -/
theorem Delimited.unique {other otherFlags : List Char} (h : Delimited pattern body flags)
    (hother : Delimited pattern other otherFlags) : body = other ∧ flags = otherFlags := by
  have hsame := (delimited?_eq_some_iff.2 h).symm.trans (delimited?_eq_some_iff.2 hother)
  exact Prod.mk.inj (Option.some.inj hsame)

/-! ### Reading and matching -/

namespace Engine

variable {ρ : Type} {engine : Engine ρ} {expression : ρ}

/-- A pattern without the form of a regular expression is read as a text. -/
theorem read_of_not_delimited (h : ¬∃ body flags, Delimited pattern body flags) :
    engine.read pattern = .ok (.literal pattern) := by
  rw [read, delimited?_eq_none_iff.2 h]

/-- A delimited pattern is an expression if its body compiles. -/
theorem read_of_compiles (h : Delimited pattern body flags)
    (hcompiles : engine.compile? body (flags.contains 'i') (flags.contains 'm') = some expression) :
    engine.read pattern = .ok (.regex expression) := by
  rw [read, delimited?_eq_some_iff.2 h]
  simp only [hcompiles]

/-- A delimited pattern is refused if its body does not compile. -/
theorem read_of_rejected (h : Delimited pattern body flags)
    (hrejected : engine.compile? body (flags.contains 'i') (flags.contains 'm') = none) :
    engine.read pattern = .error (.invalidRegex pattern) := by
  rw [read, delimited?_eq_some_iff.2 h]
  simp only [hrejected]

/-- A pattern is read as a text exactly if it does not have the form of a regular expression. -/
theorem read_ne_literal_iff :
    (∀ text, engine.read pattern ≠ .ok (.literal text)) ↔
      ∃ body flags, Delimited pattern body flags := by
  constructor
  · intro h
    by_cases hform : ∃ body flags, Delimited pattern body flags
    · exact hform
    · exact absurd (read_of_not_delimited hform) (h pattern)
  · rintro ⟨body, flags, hform⟩ text htext
    cases hcompile : engine.compile? body (flags.contains 'i') (flags.contains 'm') with
    | none =>
        rw [read_of_rejected hform hcompile] at htext
        cases htext
    | some expression =>
        rw [read_of_compiles hform hcompile] at htext
        cases htext

/-- A text matches a delimited pattern where the expression of the body occurs in it. -/
theorem is_match_of_compiles (h : Delimited pattern body flags)
    (hcompiles : engine.compile? body (flags.contains 'i') (flags.contains 'm') = some expression)
    (needle : String) :
    engine.isMatch needle pattern = engine.occursIn expression needle.toList := by
  rw [isMatch, read_of_compiles h hcompiles]
  rfl

/-- Whether a flag is set depends only on whether it is among the flags. -/
theorem contains_congr {c : Char} {others : List Char} (h : c ∈ flags ↔ c ∈ others) :
    flags.contains c = others.contains c := by
  rw [Bool.eq_iff_iff, List.contains_iff_mem, List.contains_iff_mem]
  exact h

/-- Whatever the engine, a pattern is taken for a regular expression exactly if it is a body between
slashes, with something in it and no line feed, followed by flags, and it is that in one way. All
other patterns, and those of which the engine rejects the body, are matched by themselves alone. The
others are matched as the engine matches their body, and of their flags it only matters whether `i`
and `m` are among them. -/
theorem is_match_of_form (engine : Engine ρ) :
    (∀ pattern, (∀ text, engine.read pattern ≠ .ok (.literal text)) ↔
      ∃ body flags, Delimited pattern body flags) ∧
    (∀ pattern body flags other otherFlags, Delimited pattern body flags →
      Delimited pattern other otherFlags → body = other ∧ flags = otherFlags) ∧
    (∀ pattern, (∀ body flags, Delimited pattern body flags →
        engine.compile? body (flags.contains 'i') (flags.contains 'm') = none) →
      ∀ needle, engine.isMatch needle pattern = true ↔ needle = pattern) ∧
    ∀ pattern body flags expression, Delimited pattern body flags →
      engine.compile? body (flags.contains 'i') (flags.contains 'm') = some expression →
      (∀ needle, engine.isMatch needle pattern = engine.occursIn expression needle.toList) ∧
      ∀ other otherFlags, Delimited other body otherFlags → ('i' ∈ flags ↔ 'i' ∈ otherFlags) →
        ('m' ∈ flags ↔ 'm' ∈ otherFlags) →
        ∀ needle, engine.isMatch needle other = engine.isMatch needle pattern := by
  refine ⟨fun pattern => read_ne_literal_iff,
    fun pattern body flags other otherFlags h hother => h.unique hother,
    fun pattern hrejected needle => ?_,
    fun pattern body flags expression h hcompiles =>
      ⟨is_match_of_compiles h hcompiles, fun other otherFlags hother hi hm needle => ?_⟩⟩
  · rw [isMatch]
    by_cases hform : ∃ body flags, Delimited pattern body flags
    · obtain ⟨body, flags, h⟩ := hform
      rw [read_of_rejected h (hrejected body flags h)]
      exact beq_iff_eq
    · rw [read_of_not_delimited hform]
      show (pattern == needle) = true ↔ needle = pattern
      rw [beq_iff_eq, eq_comm]
  · rw [contains_congr hi, contains_congr hm] at hcompiles
    rw [is_match_of_compiles hother hcompiles,
      is_match_of_compiles h (by rw [contains_congr hi, contains_congr hm, hcompiles])]

end Engine

end MarkupSemantics.Pattern
