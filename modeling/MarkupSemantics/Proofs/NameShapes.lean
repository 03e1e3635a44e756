import MarkupSemantics.Conformance.Elements

/-!
# The shapes of names

The grammar of the names of elements and attributes. `is_element_name_iff` and
`is_attribute_name_iff` say that the checks of names accept exactly what the grammar allows; the
check of an element name cuts at the first colon, while the grammar says where a colon may stand.
All letters and digits are those of ASCII.
-/

namespace MarkupSemantics.Conformance

variable {cs : List Char} {name : String}

/-- `PlainShape cs` says `cs` is a letter followed by letters, digits and hyphens. -/
def PlainShape (cs : List Char) : Prop :=
  ∃ first rest, cs = first :: rest ∧ first.isAlpha = true ∧
    ∀ c ∈ rest, c.isAlpha = true ∨ c.isDigit = true ∨ c = '-'

/-- `ElementShape name` says `name` has a plain shape, alone or after one or more lower-case letters
and a colon. -/
def ElementShape (name : String) : Prop :=
  PlainShape name.toList ∨ ∃ letters localName, name.toList = letters ++ ':' :: localName ∧
    letters ≠ [] ∧ (∀ c ∈ letters, c.isLower = true) ∧ PlainShape localName

/-- `AttributeShape name` says `name` is a letter or an underscore followed by letters, digits,
underscores, dots, colons and hyphens. -/
def AttributeShape (name : String) : Prop :=
  ∃ first rest, name.toList = first :: rest ∧ (first.isAlpha = true ∨ first = '_') ∧
    ∀ c ∈ rest, c.isAlpha = true ∨ c.isDigit = true ∨ c = '_' ∨ c = '.' ∨ c = ':' ∨ c = '-'

/-- The check of plain names accepts exactly those of the plain shape. -/
theorem is_plain_name_iff : isPlainName cs = true ↔ PlainShape cs := by
  cases cs with
  | nil => simp [isPlainName, PlainShape]
  | cons first rest => simp [isPlainName, PlainShape, Char.isAlphanum, or_assoc, and_assoc]

/-- The check of attribute names accepts exactly those of the shape. -/
theorem is_attribute_name_iff : isAttributeName name = true ↔ AttributeShape name := by
  rw [isAttributeName, AttributeShape]
  cases name.toList with
  | nil => simp
  | cons first rest => simp [Char.isAlphanum, or_assoc, and_assoc]

/-- A plain name has no colon. -/
theorem PlainShape.colon_not_mem (h : PlainShape cs) : ':' ∉ cs := by
  obtain ⟨first, rest, rfl, hfirst, hrest⟩ := h
  intro hmem
  rcases List.mem_cons.1 hmem with rfl | hmem
  · cases hfirst
  · rcases hrest ':' hmem with h | h | h <;> cases h

/-- The check of element names accepts exactly those of the shape. -/
theorem is_element_name_iff : isElementName name = true ↔ ElementShape name := by
  rw [isElementName, ElementShape]
  split
  · rename_i hnone
    have hcolon := Text.split_first_eq_none.1 hnone
    rw [is_plain_name_iff]
    refine ⟨Or.inl, fun h => h.resolve_right ?_⟩
    rintro ⟨letters, localName, hname, _⟩
    exact hcolon (hname ▸ List.mem_append_right _ List.mem_cons_self)
  · rename_i qualifier localName hsplit
    obtain ⟨hname, hqualifier⟩ := Text.split_first_eq_some.1 hsplit
    have hcolon : ':' ∈ name.toList := hname ▸ List.mem_append_right _ List.mem_cons_self
    rw [Bool.and_eq_true, Bool.and_eq_true, is_plain_name_iff]
    constructor
    · rintro ⟨⟨hnonempty, hlower⟩, hplain⟩
      exact Or.inr ⟨qualifier, localName, hname, by simpa using hnonempty,
        by simpa using hlower, hplain⟩
    · rintro (hplain | ⟨letters, rest, hrest, hnonempty, hlower, hplain⟩)
      · exact absurd hcolon hplain.colon_not_mem
      · -- lower-case letters are no colons, so this is the cut at the first colon too
        have hletters : ':' ∉ letters := fun hmem => nomatch hlower ':' hmem
        have hsame := Text.split_first_eq_some.2 ⟨hrest, hletters⟩
        rw [hsplit] at hsame
        cases hsame
        exact ⟨⟨by simpa using hnonempty, by simpa using hlower⟩, hplain⟩

instance : Decidable (ElementShape name) :=
  decidable_of_iff _ is_element_name_iff

instance : Decidable (AttributeShape name) :=
  decidable_of_iff _ is_attribute_name_iff

end MarkupSemantics.Conformance
