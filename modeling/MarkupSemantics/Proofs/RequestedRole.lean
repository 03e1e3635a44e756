import MarkupSemantics.Proofs.Acceptance
import MarkupSemantics.Proofs.LowerCase
import MarkupSemantics.Rules.ElementRole
import MarkupSemantics.Tree.Element

/-!
# The role that an attribute asks for

The value of a `role` attribute is trimmed and lower-cased as a whole, and its first word is the
role. The main statement is `role_of_attribute`: the role is the first word of the value in lower
case, as if the word stood alone.
-/

namespace MarkupSemantics

open Text

/-- The role is the lower case of the first word, whatever is around the word. -/
theorem requested_role_eq {before word rest : String}
    (hbefore : ∀ c ∈ before.toList, isBlank c = true) (hne : word ≠ "")
    (hword : ∀ c ∈ word.toList, isBlank c = false) (hrest : EndsWord rest.toList) :
    requestedRole (before ++ word ++ rest) = String.ofList (lowercase word.toList) := by
  have hchars : word.toList ≠ [] := by simpa using hne
  rw [requestedRole, String.toList_append, String.toList_append, trim_word hbefore hchars hword,
    first_word_lowercase hchars hword hrest.trim_end]

/-- The role that is asked for has no white space in it. -/
theorem is_blank_of_mem_requested_role {value : String} :
    ∀ c ∈ (requestedRole value).toList, isBlank c = false := by
  intro c hc
  rw [requestedRole, String.toList_ofList] at hc
  exact is_blank_of_mem_first_word hc

/-- The role has no name exactly if the attribute is blank. -/
theorem requested_role_eq_empty_iff {value : String} :
    requestedRole value = "" ↔ ∀ c ∈ value.toList, isBlank c = true := by
  constructor
  · intro hempty
    by_contra hblank
    obtain ⟨before, word, rest, hvalue, hbefore, hne, hword, hrest⟩ := exists_first_word hblank
    rw [requestedRole, hvalue, trim_word hbefore hne hword,
      first_word_lowercase hne hword hrest.trim_end] at hempty
    exact lowercase_ne_nil hne (String.ofList_eq_empty_iff.1 hempty)
  · intro hblank
    have htrim : trim value.toList = [] := by
      have hnothing : Tight [] := .of_solid (by simp)
      have hpadded := trim_padded hblank hnothing (by simp : ∀ c ∈ [], isBlank c = true)
      rwa [List.append_nil, List.append_nil] at hpadded
    rw [requestedRole, htrim]
    rfl

/-- The role that an element asks for is the first word of the attribute in lower case. White space
before the word and all that follows it have no part in the role, although the value is lower-cased
as a whole. The role contains no white space, and its name is empty exactly if the value consists of
white space. -/
theorem role_of_attribute {ε : Type} [MarkupElement ε] (r : Repository) (e : ε) (value : String)
    (h : MarkupElement.attribute? e "role" = some value) :
    (∀ before word rest, value = before ++ word ++ rest →
      (∀ c ∈ before.toList, isBlank c = true) → word ≠ "" →
      (∀ c ∈ word.toList, isBlank c = false) → EndsWord rest.toList →
      r.computedRole? e = some ⟨String.ofList (lowercase word.toList), false⟩) ∧
    ∃ name, r.computedRole? e = some ⟨name, false⟩ ∧
      (∀ c ∈ name.toList, isBlank c = false) ∧
      (name = "" ↔ ∀ c ∈ value.toList, isBlank c = true) := by
  have hrole : r.computedRole? e = some ⟨requestedRole value, false⟩ := by
    rw [Repository.computedRole?, h]
  refine ⟨?_, _, hrole, is_blank_of_mem_requested_role, requested_role_eq_empty_iff⟩
  rintro before word rest rfl hbefore hne hword hrest
  rw [hrole, requested_role_eq hbefore hne hword hrest]

/-- A paragraph with a role in capitals, of which the last is a sigma, and with another word. -/
def greekParagraph : Tree.Element :=
  (Tree.Element.named "p").addAttribute "role" "\u00A0ΟΔΟΣ ΑΒ"

/-- The sigma ends its word, although letters follow the white space. -/
theorem role_of_greek_paragraph :
    ∃ r, Repository.ofDocument {} = .ok r ∧
      r.computedRole? greekParagraph = some ⟨"οδος", false⟩ := by
  obtain ⟨r, hr⟩ := Repository.exists_of_document_iff.2
    (show Document.defect? {} = none by cbv)
  have hlower : String.ofList (lowercase "ΟΔΟΣ".toList) = "οδος" := by decide +kernel
  have hblank : "\u00A0".toList.all isBlank = true := by decide
  have hsolid : "ΟΔΟΣ".toList.any isBlank = false := by decide
  have hword : ∀ c ∈ "ΟΔΟΣ".toList, isBlank c = false := fun c hc =>
    Bool.eq_false_iff.2 (List.any_eq_false.1 hsolid c hc)
  have hends : EndsWord " ΑΒ".toList := by
    rintro c ⟨⟩
    rfl
  have hrole := (role_of_attribute r greekParagraph "\u00A0ΟΔΟΣ ΑΒ" rfl).1
    "\u00A0" "ΟΔΟΣ" " ΑΒ" rfl (List.all_eq_true.1 hblank) (by decide) hword hends
  exact ⟨r, hr, hlower ▸ hrole⟩

end MarkupSemantics
