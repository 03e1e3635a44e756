import MarkupSemantics.Proofs.MessageTemplates
import MarkupSemantics.Rules.Validation
import MarkupSemantics.Tree.Element

/-!
# The message about a condition that does not hold

The message is made in two steps, each from a template with two places: the attribute is named, and
then it is said to be disallowed. `subject_plain` is the first step for the plain translator and
`disallowed_message_plain` the whole. The main statement is `messages_of_plain`: which messages are
filled verbatim, and what a report says about an attribute of any name.
-/

namespace MarkupSemantics

namespace Translation

/-- The first placeholder, as it is written. -/
theorem placeholder_zero : placeholder 0 = "\x7b0\x7d".toList := by
  rw [placeholder_eq, Decimal.digits_zero]
  rfl

/-- The second placeholder, as it is written. -/
theorem placeholder_one : placeholder 1 = "\x7b1\x7d".toList := by
  rw [placeholder_eq, Decimal.digits]
  rfl

/-- The word `attribute` completes no placeholder. -/
theorem attribute_not_completes (k : Nat) : ¬ Completes (placeholder k) "attribute".toList :=
  not_completes_placeholder (by decide) (by decide) (List.mem_cons_self : 'a' ∈ _) rfl k

/-- Two arguments are filled in one after the other. -/
theorem plain_pair (template first second : String) :
    (plain template [first, second]).toList =
      replaceAll (placeholder 1) second.toList
        (replaceAll (placeholder 0) first.toList template.toList) := by
  rw [plain, String.toList_ofList, fillFrom, fillFrom, fillFrom]

/-- The name of an attribute is filled in first. -/
theorem replace_name (name : String) :
    replaceAll (placeholder 0) name.toList "the \"\x7b0\x7d\" \x7b1\x7d".toList =
      "the \"".toList ++ (name.toList ++ ("\" ".toList ++ placeholder 1)) := by
  have htemplate : "the \"\x7b0\x7d\" \x7b1\x7d".toList =
      "the \"".toList ++ (placeholder 0 ++ ("\" ".toList ++ placeholder 1)) := by
    rw [placeholder_zero, placeholder_one]
    rfl
  rw [htemplate, replace_placeholder_append (by decide),
    replace_all_occurrence (placeholder_ne_nil 0), replace_placeholder_append (by decide),
    replace_placeholder_of_ne (by decide)]

/-- Then the word is, also at the places that the name has brought in. -/
theorem subject_plain (name : String) :
    (plain "the \"\x7b0\x7d\" \x7b1\x7d" [name, "attribute"]).toList =
      replaceAll (placeholder 1) "attribute".toList
        ("the \"".toList ++ (name.toList ++ ("\" ".toList ++ placeholder 1))) := by
  rw [plain_pair, replace_name]

/-- The places in a name are filled in apart from what stands around it. -/
theorem subject_plain_append (name : String) :
    (plain "the \"\x7b0\x7d\" \x7b1\x7d" [name, "attribute"]).toList =
      "the \"".toList ++
        (replaceAll (placeholder 1) "attribute".toList name.toList ++ "\" attribute".toList) := by
  have hmark : '\"' ∉ placeholder 1 := by
    rw [placeholder_one]
    decide
  have hafter : "\" ".toList ++ placeholder 1 = '\"' :: ([' '] ++ placeholder 1) := rfl
  rw [subject_plain, replace_placeholder_append (by decide), hafter,
    replace_all_append_cons (placeholder_ne_nil 1) hmark, replace_placeholder_append (by decide),
    replace_placeholder_self]
  rfl

/-- The template of the whole message is a placeholder, a verb and a placeholder. -/
theorem state_template_eq :
    "\x7b0\x7d is \x7b1\x7d".toList = placeholder 0 ++ (" is ".toList ++ placeholder 1) := by
  rw [placeholder_zero, placeholder_one]
  rfl

/-- In the second template, the subject is filled in first. -/
theorem replace_subject (subject : List Char) :
    replaceAll (placeholder 0) subject "\x7b0\x7d is \x7b1\x7d".toList =
      subject ++ ' ' :: ("is ".toList ++ placeholder 1) := by
  rw [state_template_eq, replace_all_occurrence (placeholder_ne_nil 0),
    replace_placeholder_append (by decide), replace_placeholder_of_ne (by decide)]
  rfl

/-- Then the state of the subject is, also at the places that the subject has brought in. -/
theorem state_plain (subject state : String) :
    (plain "\x7b0\x7d is \x7b1\x7d" [subject, state]).toList =
      replaceAll (placeholder 1) state.toList subject.toList ++
        (" is ".toList ++ state.toList) := by
  have hspace : ' ' ∉ placeholder 1 := by
    rw [placeholder_one]
    decide
  rw [plain_pair, replace_subject, replace_all_append_cons (placeholder_ne_nil 1) hspace,
    replace_placeholder_append (by decide), replace_placeholder_self]
  rfl

/-- The message about an attribute through the plain translator. -/
theorem disallowed_message_plain (name : String) :
    disallowedMessage plain name =
      "the \"" ++
        String.ofList (replaceAll (placeholder 1) "attribute".toList name.toList) ++
        "\" attribute is disallowed" := by
  let subject := plain "the \"\x7b0\x7d\" \x7b1\x7d" [name, "attribute"]
  -- the word was filled in everywhere, so the subject has no place left for the second template
  have hkept : replaceAll (placeholder 1) "disallowed".toList subject.toList = subject.toList := by
    refine replace_all_of_not_infix ?_
    rw [subject_plain]
    exact not_infix_replace_all (placeholder_ne_nil 1) (attribute_not_completes 1) _
  refine String.toList_inj.1 ?_
  rw [disallowedMessage, state_plain, hkept, subject_plain_append]
  simp

/-- The message names the attribute as it is written, unless the name has the second placeholder in
it. -/
theorem disallowed_message_plain_iff (name : String) :
    disallowedMessage plain name = "the \"" ++ name ++ "\" attribute is disallowed" ↔
      ¬ placeholder 1 <:+: name.toList := by
  rw [disallowed_message_plain, String.append_left_inj, String.append_right_inj,
    ← replace_all_eq_self_iff (placeholder_ne_nil 1) (attribute_not_completes 1),
    ← String.toList_inj, String.toList_ofList]

end Translation

open Translation

namespace WrittenAttribute

variable {ε : Type} [MarkupElement ε] {e : ε} {checker : Checker Id} {translate : Translator}
  {a : WrittenAttribute} {definitions : List AttributeDef}

/-- `a.IsUnmet checker e definitions` says the first of `definitions` for `a` has a condition that
`e` does not satisfy, while `checker` accepts the value. -/
structure IsUnmet (a : WrittenAttribute) (checker : Checker Id) (e : ε)
    (definitions : List AttributeDef) : Prop where
  /-- The checker finds nothing. -/
  accepted : checker ⟨a.name, a.value, false, definitions.find? (·.name == a.name)⟩ = none
  /-- No attributes are added later. -/
  noSpread : MarkupElement.hasSpread e = false
  /-- There is a condition, and it does not hold. -/
  unmet : ∃ condition, (definitions.find? (·.name == a.name)).bind (·.condition) = some condition ∧
    condition.holds e = false

/-- An attribute whose condition is unmet is reported with the message about it. -/
theorem check_of_is_unmet (h : a.IsUnmet checker e definitions) :
    a.check checker translate e definitions =
      some ⟨.nonExistent, disallowedMessage translate a.name⟩ := by
  obtain ⟨haccepted, hspread, condition, hcondition, hholds⟩ := h
  have hproblem : a.conditionProblem? translate e (definitions.find? (·.name == a.name)) =
      some ⟨.nonExistent, disallowedMessage translate a.name⟩ := by
    rw [conditionProblem?, hcondition, hspread]
    simp [Condition.isMet, hholds]
  show a.reported ((checker _).or _) = _
  rw [haccepted, hproblem]
  simp [reported]

end WrittenAttribute

/-- There is exactly one way to fill arguments into a template verbatim. The plain translator does
so if at each turn a placeholder is only where the template has it, as it is in every template if no
argument completes the placeholder of a later one. An attribute whose condition is unmet is reported
as one that the element does not have. The message names the attribute as it is written exactly if
the name does not have the second placeholder in it; each one in the name is read as the word that
belongs at this place. -/
theorem messages_of_plain {ε : Type} [MarkupElement ε] (template : String)
    (arguments : List String) (a : WrittenAttribute) (checker : Checker Id) (e : ε)
    (definitions : List AttributeDef) :
    (∃! message, FillsVerbatim template arguments message) ∧
    (Undisturbed template arguments →
      FillsVerbatim template arguments (plain template arguments)) ∧
    (Independent arguments → Undisturbed template arguments) ∧
    (a.IsUnmet checker e definitions →
      let message := fun name => "the \"" ++ name ++ "\" attribute is disallowed"
      let named := String.ofList (replaceAll (placeholder 1) "attribute".toList a.name.toList)
      a.check checker plain e definitions = some ⟨.nonExistent, message named⟩ ∧
        (message named = message a.name ↔ ¬ placeholder 1 <:+: a.name.toList)) := by
  refine ⟨exists_unique_fills_verbatim template arguments, plain_fills_verbatim,
    undisturbed_of_independent template, ?_⟩
  intro hunmet message named
  have hmessage : disallowedMessage plain a.name = message named := disallowed_message_plain a.name
  rw [WrittenAttribute.check_of_is_unmet hunmet, hmessage]
  refine ⟨rfl, ?_⟩
  rw [← hmessage]
  exact disallowed_message_plain_iff a.name

/-- Two words are filled in, and the target of a link is disallowed outside of a form. -/
theorem messages_of_plain_of_words :
    FillsVerbatim "\x7b0\x7d is \x7b1\x7d" ["a", "b"]
      (plain "\x7b0\x7d is \x7b1\x7d" ["a", "b"]) ∧
    WrittenAttribute.check ⟨"target", "x", false⟩ (Checker.always none) plain
      (Tree.Element.named "a") [AttributeDef.when { name := "target" } (.inside "form")] =
        some ⟨.nonExistent, "the \"target\" attribute is disallowed"⟩ := by
  obtain ⟨-, hverbatim, hundisturbed, hcheck⟩ := messages_of_plain
    "\x7b0\x7d is \x7b1\x7d" ["a", "b"] ⟨"target", "x", false⟩ (Checker.always none)
    (Tree.Element.named "a") [AttributeDef.when { name := "target" } (.inside "form")]
  have hwords : Independent ["a", "b"] := by
    refine independent_of_words fun a ha => ?_
    rw [List.mem_pair] at ha
    rcases ha with rfl | rfl
    · exact ⟨by decide, by decide, 'a', by decide, rfl⟩
    · exact ⟨by decide, by decide, 'b', by decide, rfl⟩
  have hunmet : WrittenAttribute.IsUnmet ⟨"target", "x", false⟩ (Checker.always none)
      (Tree.Element.named "a") [AttributeDef.when { name := "target" } (.inside "form")] :=
    ⟨rfl, rfl, .inside "form", rfl, rfl⟩
  have hname : ¬ placeholder 1 <:+: "target".toList := by
    rw [placeholder_one]
    decide
  obtain ⟨hreport, hsame⟩ := hcheck hunmet
  rw [hsame.2 hname] at hreport
  exact ⟨hverbatim (hundisturbed hwords), hreport⟩

/-- An argument that is itself a placeholder is filled in again. -/
theorem not_fills_verbatim_of_placeholder :
    ¬ FillsVerbatim "\x7b0\x7d is \x7b1\x7d" ["\x7b1\x7d", "y"]
      (plain "\x7b0\x7d is \x7b1\x7d" ["\x7b1\x7d", "y"]) := by
  have hreading : IsReading 2 [.slot 0, .char ' ', .char 'i', .char 's', .char ' ', .slot 1] := by
    exact .slot 0 _ (by decide) (.char_of_ne (by decide) (.char_of_ne (by decide)
      (.char_of_ne (by decide) (.char_of_ne (by decide) (.slot 1 _ (by decide) .nil)))))
  have hwritten : written [.slot 0, .char ' ', .char 'i', .char 's', .char ' ', .slot 1] =
      "\x7b0\x7d is \x7b1\x7d".toList := by
    rw [state_template_eq, written_slot_cons, written_char_cons, written_char_cons,
      written_char_cons, written_char_cons, written_slot_cons, written_nil, List.append_nil]
    rfl
  have hplain : (plain "\x7b0\x7d is \x7b1\x7d" ["\x7b1\x7d", "y"]).toList = "y is y".toList := by
    rw [state_plain, ← placeholder_one, replace_placeholder_self]
    rfl
  rintro ⟨parts, hparts, hsame, hmessage⟩
  rw [hparts.unique hreading (hsame.trans hwritten.symm), hplain] at hmessage
  exact absurd hmessage (by decide)

end MarkupSemantics
