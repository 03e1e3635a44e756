import MarkupSemantics.Proofs.Acceptance
import MarkupSemantics.Proofs.AttributeResolution
import MarkupSemantics.Proofs.SelectorReading
import MarkupSemantics.Rules.Validation

/-!
# Which condition decides about an attribute

The list of an element may name an attribute several times, and each time with a condition of its
own. `effectiveCondition?` says which one counts, in terms of what the element is made from; the
condition found in the finished list is that one by `condition_of_find?`. The main statement is
`check_attribute_report`: the answer of a check, for every checker.
-/

namespace MarkupSemantics

open AttributeDef (lastPresent)
open AttributeResolution (sourceItems splicedFrom itemsOf entriesNamed)

namespace AttributeDef

variable {α : Type}

/-- The first definition gives the last value if no later one gives any. -/
theorem last_present_cons (part : AttributeDef → Option α) (first : AttributeDef)
    (later : List AttributeDef) :
    lastPresent part (first :: later) = (lastPresent part later).or (part first) := by
  rw [lastPresent, lastPresent]
  cases hfirst : part first with
  | none => rw [List.filterMap_cons_none hfirst, Option.or_none]
  | some value =>
      rw [List.filterMap_cons_some hfirst]
      cases hlater : (later.filterMap part).getLast? with
      | none => simp [List.getLast?_eq_none_iff.1 hlater]
      | some last => rw [List.getLast?_cons, hlater]; rfl

end AttributeDef

/-- `entry.own?` is the attribute that `entry` gives, if it does not refer to a group. -/
def AttributeEntry.own? : AttributeEntry → Option AttributeDef
  | .group _ => none
  | .single definition => some definition

/-- `e.ownNamed n` lists the attributes called `n` that `e` gives itself, in their order. -/
def ElementDef.ownNamed (e : ElementDef) (n : String) : List AttributeDef :=
  (e.attributes.filterMap (·.own?)).filter (·.name = n)

namespace Repository

variable {r : Repository} {e : ElementDef} {n : String}

/-- `r.conditionOn? e n` is the condition of the attribute `n` on `e`: the last one that an
attribute of the element gives, or else the one of the first attribute `n` that the element is made
from. The attributes added to every element count if there is none. -/
def conditionOn? (r : Repository) (e : ElementDef) (n : String) : Option Condition :=
  (lastPresent (·.condition) (e.ownNamed n)).or
    (match (sourceItems r e).find? (·.name = n) with
    | some first => first.definition.condition
    | none => ((r.groupAttributes AttributeEntry.extensionGroup).find? (·.name = n)).bind
        (·.condition))

/-- `r.effectiveCondition? name n` is the condition of the attribute `n` on the element called
`name`. Without a definition of the element there is none. -/
def effectiveCondition? (r : Repository) (name n : String) : Option Condition :=
  (r.document.elements.find? (·.name == name)).bind (r.conditionOn? · n)

/-- Groups give no attribute of the element itself. -/
theorem filter_map_inline?_spliced_from (group : String) :
    (splicedFrom r group).filterMap (·.inline?) = [] := by
  simp [splicedFrom, SourceItem.inline?]

/-- The items of entries that come from no group are the attributes that the entries give
themselves. -/
theorem filter_map_inline?_flat_map_items_of (entries : List AttributeEntry) :
    (entries.flatMap (itemsOf r)).filterMap (·.inline?) = entries.filterMap (·.own?) := by
  induction entries with
  | nil => rfl
  | cons entry entries ih =>
      rw [List.flatMap_cons, List.filterMap_append, ih]
      cases entry with
      | group name =>
          rw [itemsOf, filter_map_inline?_spliced_from]
          rfl
      | single definition => rfl

/-- The attributes that an element gives itself are its items that come from no group. -/
theorem own_named_eq (r : Repository) (e : ElementDef) (n : String) :
    e.ownNamed n = ((sourceItems r e).filter (·.name = n)).filterMap (·.inline?) := by
  have hshared : (if hasQualifier e.name = false ∧
      .group AttributeEntry.globalReference ∈ e.attributes then
        splicedFrom r AttributeEntry.htmlGlobalGroup else []).filterMap (·.inline?) = [] := by
    split
    · exact filter_map_inline?_spliced_from _
    · rfl
  have hnamed : ∀ items : List SourceItem,
      (items.filter (·.name = n)).filterMap (·.inline?) =
        (items.filterMap (·.inline?)).filter (·.name = n) := by
    intro items
    induction items with
    | nil => rfl
    | cons item items ih =>
        cases item with
        | spliced a => by_cases h : a.name = n <;> simpa [h, SourceItem.inline?] using ih
        | inline a => by_cases h : a.name = n <;> simpa [h, SourceItem.inline?] using ih
  rw [hnamed, sourceItems, List.filterMap_append, hshared, List.nil_append,
    filter_map_inline?_flat_map_items_of]
  rfl

/-- The last condition among the first item and the later ones of the element is the last one that
the element gives itself, or else the one of the first item. -/
theorem last_present_items (first : SourceItem) (later : List SourceItem) :
    lastPresent (·.condition) (first.definition :: later.filterMap (·.inline?)) =
      (lastPresent (·.condition) ((first :: later).filterMap (·.inline?))).or
        first.definition.condition := by
  cases first with
  | spliced a => exact AttributeDef.last_present_cons _ _ _
  | inline a =>
      have hinline : (SourceItem.inline a :: later).filterMap (·.inline?) =
          a :: later.filterMap (·.inline?) := rfl
      rw [hinline, SourceItem.definition, AttributeDef.last_present_cons, Option.or_assoc,
        Option.or_self]

/-- The condition that is found first in the finished list of an element is the effective one. -/
theorem condition_of_find?_attributes_of :
    ((r.attributesOf e).find? (·.name = n)).bind (·.condition) = r.conditionOn? e n := by
  have hmerged : (e.attributes.foldl r.addEntry (r.sharedAttributes e)).find? (·.name = n) =
      (entriesNamed n (sourceItems r e)).head? := by
    rw [← AttributeResolution.foldl_add_source_items, ← List.head?_filter,
      (AttributeResolution.resolves_foldl_add _).named]
  have hitem : (sourceItems r e).find? (·.name = n) =
      ((sourceItems r e).filter (·.name = n)).head? := List.head?_filter.symm
  rw [attributesOf, List.find?_append, hmerged, conditionOn?, own_named_eq r, hitem, entriesNamed]
  cases (sourceItems r e).filter (·.name = n) with
  | nil => rfl
  | cons first later => exact last_present_items first later

/-- `r.listed? name n` is the first attribute called `n` in the list of the element `name`, which is
empty without a definition of the element. -/
def listed? (r : Repository) (name n : String) : Option AttributeDef :=
  ((r.attributes? name).getD []).find? (·.name == n)

/-- The condition of the attribute that is listed first is the effective one. -/
theorem condition_of_listed? (name : String) :
    (r.listed? name n).bind (·.condition) = r.effectiveCondition? name n := by
  rw [listed?, effectiveCondition?, ← element?_eq_find?, attributes?]
  cases r.element? name with
  | none => rfl
  | some e => exact condition_of_find?_attributes_of

/-! ### The answer of a check -/

variable {ε : Type} [MarkupElement ε] {e : ε} {a : WrittenAttribute} {translate : Translator}

/-- `r.IsUnmet e n` says the attribute `n` has a condition on `e`, and `e` does not satisfy it. An
element with a spread may be given any attribute. -/
def IsUnmet (r : Repository) (e : ε) (n : String) : Prop :=
  MarkupElement.hasSpread e = false ∧
    ∃ condition, r.effectiveCondition? (MarkupElement.name e) n = some condition ∧
      condition.holds e = false

/-- An attribute whose condition is not met is one that the element does not have. -/
theorem condition_problem?_of_unmet (h : r.IsUnmet e a.name) :
    a.conditionProblem? translate e (r.listed? (MarkupElement.name e) a.name) =
      some ⟨.nonExistent, disallowedMessage translate a.name⟩ := by
  obtain ⟨hspread, condition, hcondition, hholds⟩ := h
  rw [WrittenAttribute.conditionProblem?, condition_of_listed?, hcondition, hspread]
  simp [Condition.isMet, hholds]

/-- There is no problem with an attribute unless its condition is not met. -/
theorem condition_problem?_of_not_unmet (h : ¬ r.IsUnmet e a.name) :
    a.conditionProblem? translate e (r.listed? (MarkupElement.name e) a.name) = none := by
  rw [WrittenAttribute.conditionProblem?, condition_of_listed?, if_pos]
  cases hspread : MarkupElement.hasSpread e with
  | true => rfl
  | false =>
      cases hcondition : r.effectiveCondition? (MarkupElement.name e) a.name with
      | none => rfl
      | some condition =>
          have hholds : condition.holds e ≠ false := fun hfalse =>
            h ⟨hspread, condition, hcondition, hfalse⟩
          simpa [Condition.isMet] using hholds

/-- A problem is dropped if it is one with the value and the value is not known yet. -/
theorem reported_some (problem : AttributeProblem) :
    a.reported (some problem) =
      if a.isDynamic = true ∧ problem.kind = .invalidValue then none else some problem := by
  obtain ⟨_, _, isDynamic⟩ := a
  obtain ⟨kind, message⟩ := problem
  cases isDynamic <;> cases kind <;> rfl

/-- A checker is asked about the value together with the first attribute of that name in the list of
the element. A problem that it finds is reported as it is, except that a problem with the value is
dropped exactly if the value is not known yet. If it finds none, the attribute is reported as one
that the element does not have exactly if its effective condition is not met. So a value that is not
known yet removes problems with the value and changes nothing else. -/
theorem check_attribute_report (r : Repository) (checker : Checker Id) (translate : Translator)
    (e : ε) (n value : String) :
    let verdict := checker ⟨n, value, false, r.listed? (MarkupElement.name e) n⟩
    let report := fun isDynamic => r.checkAttribute checker translate ⟨n, value, isDynamic⟩ e
    (∀ isDynamic problem, verdict = some problem →
      report isDynamic =
        if isDynamic = true ∧ problem.kind = .invalidValue then none else some problem) ∧
    (∀ isDynamic, verdict = none →
      (r.IsUnmet e n →
        report isDynamic = some ⟨.nonExistent, disallowedMessage translate n⟩) ∧
      (¬ r.IsUnmet e n → report isDynamic = none)) ∧
    report true = Option.filter (·.kind != .invalidValue) (report false) := by
  intro verdict report
  -- whether the value is known has no part in the condition, so it is the same problem throughout
  let unmet := WrittenAttribute.conditionProblem? ⟨n, value, false⟩ translate e
    (r.listed? (MarkupElement.name e) n)
  have hreport : ∀ isDynamic, report isDynamic =
      WrittenAttribute.reported ⟨n, value, isDynamic⟩ (verdict.or unmet) := fun _ => rfl
  refine ⟨fun isDynamic problem hverdict => ?_, fun isDynamic hverdict => ⟨?_, ?_⟩, ?_⟩
  · rw [hreport, hverdict]
    exact reported_some problem
  · intro h
    have hunmet : unmet = some ⟨.nonExistent, disallowedMessage translate n⟩ :=
      condition_problem?_of_unmet h
    rw [hreport, hverdict, hunmet, Option.none_or, reported_some, if_neg (fun h => nomatch h.2)]
  · intro h
    have hmet : unmet = none := condition_problem?_of_not_unmet h
    rw [hreport, hverdict, hmet]
    rfl
  · rw [hreport, hreport]
    cases verdict.or unmet with
    | none => rfl
    | some problem =>
        obtain ⟨kind, message⟩ := problem
        cases kind <;> rfl

/-! ### A condition from a group -/

open AttributeResolution (source sourceDocument)

/-- A source for print. -/
def printSource : Tree.Element :=
  (Tree.Element.named "source").addAttribute "media" "print"

/-- An element names a medium exactly if it has the attribute. -/
theorem holds_matching_media (e : Tree.Element) :
    (Condition.matching "[media]").holds e =
      (e.node.isElement && (e.node.attribute? "media").isSome) := by
  have hhas : MarkupElement.satisfies e "[media]" =
      (e.node.isElement && (e.node.attribute? "media").isSome) :=
    Tree.Selector.satisfies_has e ⟨"media", by decide, by decide⟩ (by decide)
  show (MarkupElement.satisfies e "[media]" || false) = _
  rw [Bool.or_false, hhas]

/-- The condition on the address of a source is the one of the group, since the source itself gives
none. -/
theorem effective_condition_of_source {r : Repository} (h : r.document = sourceDocument) :
    r.effectiveCondition? "source" "srcset" = some (.matching "[media]") := by
  have hfound : r.effectiveCondition? "source" "srcset" = r.conditionOn? source "srcset" := by
    rw [effectiveCondition?, h]
    rfl
  rw [hfound, ← condition_of_find?_attributes_of, AttributeResolution.attributes_of_source h]
  rfl

/-- The address of a source is reported where no medium is named, although the checker accepts it,
and is not reported on the source for print. -/
theorem report_of_source :
    ∃ r, ofDocument sourceDocument = .ok r ∧
      ∀ translate value isDynamic,
        r.checkAttribute (.always none) translate ⟨"srcset", value, isDynamic⟩
            (Tree.Element.named "source") =
          some ⟨.nonExistent, disallowedMessage translate "srcset"⟩ ∧
        r.checkAttribute (.always none) translate ⟨"srcset", value, isDynamic⟩ printSource =
          none := by
  obtain ⟨r, hr⟩ := exists_of_document_iff.2 (show sourceDocument.defect? = none by cbv)
  have hcondition := effective_condition_of_source (document_of_ok hr)
  refine ⟨r, hr, ?_⟩
  intro translate value isDynamic
  constructor
  · have hunmet : r.IsUnmet (Tree.Element.named "source") "srcset" :=
      ⟨rfl, _, hcondition, (holds_matching_media _).trans (by decide)⟩
    obtain ⟨-, haccepted, -⟩ := check_attribute_report r (.always none) translate
      (Tree.Element.named "source") "srcset" value
    exact (haccepted isDynamic rfl).1 hunmet
  · have hmet : ¬ r.IsUnmet printSource "srcset" := by
      rintro ⟨-, condition, hsome, hunmet⟩
      have hsame : condition = .matching "[media]" := Option.some.inj (hsome.symm.trans hcondition)
      rw [hsame, holds_matching_media] at hunmet
      revert hunmet
      decide
    obtain ⟨-, haccepted, -⟩ := check_attribute_report r (.always none) translate printSource
      "srcset" value
    exact (haccepted isDynamic rfl).2 hmet

end Repository

end MarkupSemantics
