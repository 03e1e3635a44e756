import MarkupSemantics.Proofs.SelectorScan
import MarkupSemantics.Rules.Applicability
import MarkupSemantics.Tree.Element

/-!
# Alternatives of a condition

The alternatives of a condition are matched as one selector, with commas between them. If each of
them closes its own quotes, brackets and parentheses, none changes what another one matches, by
`accepts_joined`; this holds for alternatives that are empty, contain commas or cannot be read. The
main statement is `is_met_iff_of_closed`: what a condition says about an element and the elements
around it.
-/

namespace MarkupSemantics

namespace Tree

/-- Nothing matches the empty selector. -/
theorem Selector.accepts_empty (n : Node) : accepts "" n = false := by
  have hcompound : matchesCompound n [] = false := by
    rw [matchesCompound, show Text.trim [] = [] from rfl, compound?]
    rfl
  show ([[]] : List (List Char)).any (matchesCompound n) = false
  rw [List.any_cons, hcompound]
  rfl

/-- Alternatives that close what they open are matched one by one. -/
theorem Selector.accepts_joined (n : Node) {alternatives : OneOrMany}
    (h : ∀ s ∈ alternatives.toList, Closes s.toList) :
    accepts alternatives.joined n = alternatives.toList.any (accepts · n) := by
  rw [OneOrMany.joined]
  generalize alternatives.toList = selectors at h
  cases selectors with
  | nil => exact accepts_empty n
  | cons s selectors =>
      have hcloses : ∀ cs ∈ s.toList :: selectors.map String.toList, Closes cs := by
        intro cs hcs
        obtain ⟨t, ht, rfl⟩ := List.mem_map.1 (List.map_cons (f := String.toList) ▸ hcs)
        exact h t ht
      rw [accepts, String.toList_intercalate, List.map_cons,
        show ",".toList = [','] from rfl, compounds_intercalate hcloses, List.any_flatMap,
        ← List.map_cons, List.any_map]
      rfl

namespace Element

/-- An element does not match the empty selector. -/
theorem satisfies_empty (e : Element) : e.satisfies "" = false := by
  rw [satisfies, Selector.accepts_empty, Bool.and_false]

/-- Alternatives that close what they open are matched by an element one by one. -/
theorem satisfies_joined (e : Element) {alternatives : OneOrMany}
    (h : ∀ s ∈ alternatives.toList, Selector.Closes s.toList) :
    e.satisfies alternatives.joined = alternatives.toList.any (e.satisfies ·) := by
  simp only [satisfies, Selector.accepts_joined e.node h]
  cases e.node.isElement <;> simp

/-- The elements around a node are the elements of the chain above it, each with what is above. -/
theorem mem_elements_of_iff {around : List Node} {e : Element} :
    e ∈ elementsOf around ↔ e.node.isElement = true ∧ e.node :: e.around <:+ around := by
  induction around with
  | nil => simp [elementsOf]
  | cons node around ih =>
      have hhead : e.node :: e.around = node :: around ↔ e = ⟨node, around⟩ := by
        obtain ⟨_, _⟩ := e
        simp
      rw [elementsOf, List.suffix_cons_iff, hhead]
      split
      · rename_i helement
        rw [List.mem_cons, ih, and_or_left]
        exact or_congr_left ⟨fun heq => ⟨heq ▸ helement, heq⟩, And.right⟩
      · rename_i hfragment
        -- the nearest node is passed over
        rw [ih, and_or_left, or_iff_right]
        rintro ⟨helement, rfl⟩
        exact hfragment helement

/-- An element lies in a selector if some element of the chain above it matches the selector. -/
theorem lies_in_iff {e : Element} {selector : String} :
    MarkupElement.liesIn e selector = true ↔
      ∃ inner node outer, e.around = inner ++ node :: outer ∧ node.isElement = true ∧
        MarkupElement.satisfies (Element.mk node outer) selector = true := by
  show (elementsOf e.around).any (MarkupElement.satisfies · selector) = true ↔ _
  rw [List.any_eq_true]
  constructor
  · rintro ⟨a, ha, hmatches⟩
    obtain ⟨helement, inner, haround⟩ := mem_elements_of_iff.1 ha
    exact ⟨inner, a.node, a.around, haround.symm, helement, hmatches⟩
  · rintro ⟨inner, node, outer, haround, helement, hmatches⟩
    exact ⟨⟨node, outer⟩, mem_elements_of_iff.2 ⟨helement, inner, haround.symm⟩, hmatches⟩

end Element

end Tree

namespace Condition

/-- `c.SelfClosed` says every alternative for the element itself closes its own quotes, brackets and
parentheses. -/
def SelfClosed (c : Condition) : Prop :=
  ∀ alternatives ∈ c.own, ∀ s ∈ alternatives.toList, Tree.Selector.Closes s.toList

/-- An element meets the part of a condition for itself exactly if it matches some alternative on
its own. -/
theorem own_holds_iff {c : Condition} {e : Tree.Element} (h : c.SelfClosed) :
    c.ownHolds e = true ↔
      ∃ alternatives ∈ c.own, ∃ s ∈ alternatives.toList, MarkupElement.satisfies e s = true := by
  obtain ⟨own, ancestor⟩ := c
  cases own with
  | none => simp [ownHolds]
  | some alternatives =>
      have hjoined : MarkupElement.satisfies e alternatives.joined =
          alternatives.toList.any (MarkupElement.satisfies e ·) :=
        e.satisfies_joined (h alternatives rfl)
      -- the empty selector matches nothing, so leaving it out makes no difference
      have hempty : (alternatives.joined != "" && MarkupElement.satisfies e alternatives.joined) =
          MarkupElement.satisfies e alternatives.joined := by
        by_cases hnone : alternatives.joined = ""
        · rw [hnone]
          exact (Tree.Element.satisfies_empty e).symm
        · simp [hnone]
      show (alternatives.joined != "" && MarkupElement.satisfies e alternatives.joined) = true ↔ _
      rw [hempty, hjoined, List.any_eq_true]
      simp

/-- An element meets the part of a condition for ancestors exactly if some element of the chain
above it matches the selector, which must not be empty. -/
theorem ancestor_holds_iff {c : Condition} {e : Tree.Element} :
    c.ancestorHolds e = true ↔
      ∃ s ∈ c.ancestor, s ≠ "" ∧ ∃ inner node outer, e.around = inner ++ node :: outer ∧
        node.isElement = true ∧ MarkupElement.satisfies (Tree.Element.mk node outer) s = true := by
  obtain ⟨own, ancestor⟩ := c
  cases ancestor with
  | none => simp [ancestorHolds]
  | some selector => simp [ancestorHolds, Tree.Element.lies_in_iff]

/-- Where the alternatives of a condition close what they open, an element meets the condition
exactly if it matches one of them on its own, or some element above it, at any distance, matches the
selector for ancestors. The element itself is not above itself, and fragments on the way up make no
difference. -/
theorem is_met_iff_of_closed {c : Condition} {e : Tree.Element} (h : c.SelfClosed) :
    isMet (some c) e = true ↔
      (∃ alternatives ∈ c.own, ∃ s ∈ alternatives.toList, MarkupElement.satisfies e s = true) ∨
      ∃ s ∈ c.ancestor, s ≠ "" ∧ ∃ inner node outer, e.around = inner ++ node :: outer ∧
        node.isElement = true ∧ MarkupElement.satisfies (Tree.Element.mk node outer) s = true := by
  show (c.ownHolds e || c.ancestorHolds e) = true ↔ _
  rw [Bool.or_eq_true, own_holds_iff h, ancestor_holds_iff]

/-- Alternatives of which one is empty, one cannot be read and one contains commas. -/
def scattered : Condition where
  own := some (.many ["", "b >", "i[title=',(']:not([lang]), u", "em"])
  ancestor := some "section"

/-- An emphasis in a fragment in a section. -/
def emphasis : Tree.Element :=
  (Tree.Element.named "em").within
    (Tree.Element.fragment.within (Tree.Element.named "section"))

/-- The alternatives close what they open, and the emphasis meets the condition. -/
theorem is_met_of_scattered :
    scattered.SelfClosed ∧ isMet (some scattered) emphasis = true := by
  have hclosed : scattered.SelfClosed := by
    rintro alternatives ⟨⟩
    decide
  have hcompound : Tree.Selector.compound? ['e', 'm'] = some [.type "em"] := by
    simp [Tree.Selector.compound?, Tree.Selector.tests?, Tree.Selector.isTypeChar]
  have hmatches : MarkupElement.satisfies emphasis "em" = true := by
    show [['e', 'm']].any (Tree.Selector.matchesCompound emphasis.node) = true
    rw [List.any_cons, Tree.Selector.matchesCompound,
      show Text.trim ['e', 'm'] = ['e', 'm'] from rfl, hcompound]
    decide
  exact ⟨hclosed, (is_met_iff_of_closed hclosed).2 (.inl ⟨_, rfl, "em", by decide, hmatches⟩)⟩

end Condition

end MarkupSemantics
