import MarkupSemantics.Document.Edit
import MarkupSemantics.Proofs.AttributeResolution
import MarkupSemantics.Proofs.Conformity

/-!
# Which elements the shared attributes of HTML reach

Three tests tell whether a name is qualified: the rules look for a colon between two letters, a name
is split at a known qualifier, and the check of names accepts one colon after lower-case letters.
`ElementShape.has_qualifier_iff` says that they agree on the names that the check accepts. So no
qualified element depends on the attributes that HTML elements share, and every plain element that
refers to them starts with them. The main statement is `shared_attributes_of_names_pass`.
-/

namespace MarkupSemantics

open Conformance (ElementShape)

/-! ### Qualified names -/

/-- A text with a qualifier in it keeps it with one more character in front. -/
theorem has_qualifier_in_cons {cs : List Char} (h : hasQualifierIn cs = true) (b : Char) :
    hasQualifierIn (b :: cs) = true := by
  match cs with
  | [] => cases h
  | [_] => cases h
  | x :: y :: rest => rw [hasQualifierIn, h, Bool.or_true]

/-- A text has a qualifier exactly if a colon stands between two letters. -/
theorem has_qualifier_in_iff {cs : List Char} :
    hasQualifierIn cs = true ↔ ∃ before a c after, cs = before ++ a :: ':' :: c :: after ∧
      a.isAlpha = true ∧ c.isAlpha = true := by
  constructor
  · intro h
    fun_induction hasQualifierIn cs with
    | case1 a b c rest ih =>
        rw [Bool.or_eq_true] at h
        rcases h with h | h
        · have hletters : (a.isAlpha = true ∧ b = ':') ∧ c.isAlpha = true := by simpa using h
          exact ⟨[], a, c, rest, by rw [hletters.1.2]; rfl, hletters.1.1, hletters.2⟩
        · obtain ⟨before, a', c', after, heq, ha, hc⟩ := ih h
          exact ⟨a :: before, a', c', after, by rw [heq]; rfl, ha, hc⟩
    | case2 cs hshort => cases h
  · intro h
    obtain ⟨before, a, c, after, rfl, ha, hc⟩ := h
    induction before with
    | nil => simp [hasQualifierIn, ha, hc]
    | cons b before ih => exact has_qualifier_in_cons ih b

/-- A name with a qualifier has a colon in it. -/
theorem colon_mem_of_has_qualifier {name : String} (h : hasQualifier name = true) :
    ':' ∈ name.toList := by
  obtain ⟨before, a, c, after, hname, _, _⟩ := has_qualifier_in_iff.1 h
  simp [hname]

/-- A name outside the namespace of HTML has a colon. -/
theorem colon_mem_of_split_name {name : String} (h : (splitName name).2 ≠ .html) :
    ':' ∈ name.toList := by
  by_contra hcolon
  rw [splitName, Text.split_first_eq_none.2 hcolon] at h
  exact h rfl

/-- In the name of an element, a colon always stands between two letters. -/
theorem Conformance.ElementShape.has_qualifier_iff {name : String} (h : ElementShape name) :
    hasQualifier name = true ↔ ':' ∈ name.toList := by
  refine ⟨colon_mem_of_has_qualifier, fun hcolon => ?_⟩
  rcases h with hplain | ⟨letters, localName, hname, hne, hlower, hplain⟩
  · exact absurd hcolon hplain.colon_not_mem
  · obtain ⟨first, rest, rfl, hfirst, _⟩ := hplain
    have hlast : (letters.getLast hne).isAlpha = true := by
      show ((letters.getLast hne).isUpper || (letters.getLast hne).isLower) = true
      rw [hlower _ (List.getLast_mem hne), Bool.or_true]
    refine has_qualifier_in_iff.2
      ⟨letters.dropLast, letters.getLast hne, first, rest, ?_, hlast, hfirst⟩
    rw [hname]
    conv_lhs => rw [← List.dropLast_append_getLast hne]
    rw [List.append_assoc, List.singleton_append]

/-- Names that the check refuses may have a colon elsewhere. -/
example : hasQualifier "a:1" = false ∧ ':' ∈ "a:1".toList := by decide

/-! ### Attributes that do not depend on a group -/

namespace Repository

variable {r other : Repository} {e : ElementDef} {group : String}

/-- `r.AgreesApartFrom group other` says the documents of `r` and `other` are the same apart from
the group of attributes called `group`. -/
def AgreesApartFrom (r other : Repository) (group : String) : Prop :=
  r.document.removeGroup group = other.document.removeGroup group

/-- Repositories that agree apart from a group have the same elements. -/
theorem AgreesApartFrom.elements_eq (h : r.AgreesApartFrom other group) :
    r.document.elements = other.document.elements := by
  have hsame : r.document.removeGroup group = other.document.removeGroup group := h
  have helements := congrArg (fun d : Document => d.elements) hsame
  exact helements

/-- Repositories that agree apart from a group have the same other groups. -/
theorem AgreesApartFrom.group?_eq (h : r.AgreesApartFrom other group) {name : String}
    (hne : name ≠ group) : r.group? name = other.group? name := by
  have hsame : r.document.removeGroup group = other.document.removeGroup group := h
  have hget := congrArg (fun d : Document => d.definitions.attributeGroups.get? name) hsame
  simpa [group?, Document.removeGroup, Document.mapGroups, hne] using hget

/-- An entry that does not name the group stands for the same attributes. -/
theorem AgreesApartFrom.add_entry_eq (h : r.AgreesApartFrom other group) {entry : AttributeEntry}
    (hentry : entry ≠ .group group) (attributes : List AttributeDef) :
    r.addEntry attributes entry = other.addEntry attributes entry := by
  cases entry with
  | group name =>
      have hne : name ≠ group := fun heq => hentry (congrArg AttributeEntry.group heq)
      show attributes ++ r.groupAttributes name = attributes ++ other.groupAttributes name
      rw [groupAttributes, groupAttributes, h.group?_eq hne]
  | single a => rfl

/-- Entries that do not name the group add the same in both. -/
theorem AgreesApartFrom.foldl_add_entry_eq (h : r.AgreesApartFrom other group)
    {entries : List AttributeEntry} (hentries : .group group ∉ entries)
    (attributes : List AttributeDef) :
    entries.foldl r.addEntry attributes = entries.foldl other.addEntry attributes := by
  induction entries generalizing attributes with
  | nil => rfl
  | cons entry entries ih =>
      obtain ⟨hentry, hrest⟩ := not_or.1 (List.mem_cons.not.1 hentries)
      rw [List.foldl_cons, List.foldl_cons, h.add_entry_eq (Ne.symm hentry), ih hrest]

/-- A qualified element that does not name the shared group has the same attributes, whatever is in
the group. -/
theorem AgreesApartFrom.attributes_of_eq
    (h : r.AgreesApartFrom other AttributeEntry.htmlGlobalGroup)
    (hqualifier : hasQualifier e.name = true)
    (hentries : .group AttributeEntry.htmlGlobalGroup ∉ e.attributes) :
    r.attributesOf e = other.attributesOf e := by
  have hextension : r.groupAttributes AttributeEntry.extensionGroup =
      other.groupAttributes AttributeEntry.extensionGroup := by
    rw [groupAttributes, groupAttributes, h.group?_eq (by decide)]
  unfold attributesOf sharedAttributes
  rw [hqualifier, hextension]
  exact congrArg (· ++ _) (h.foldl_add_entry_eq hentries [])

/-! ### Attributes that are kept -/

/-- What an entry stands for is added after the names so far. -/
theorem names_prefix_add_entry (r : Repository) (attributes : List AttributeDef)
    (entry : AttributeEntry) :
    attributes.map (·.name) <+: (r.addEntry attributes entry).map (·.name) := by
  cases entry with
  | group name =>
      show _ <+: (attributes ++ r.groupAttributes name).map (·.name)
      rw [List.map_append]
      exact List.prefix_append _ _
  | single a =>
      show _ <+: (a.refineFirst attributes).map (·.name)
      rw [AttributeDef.map_name_refine_first]
      exact List.prefix_append _ _

/-- Entries leave the names that are there at the front of the list. -/
theorem names_prefix_foldl_add_entry (r : Repository) (entries : List AttributeEntry)
    (attributes : List AttributeDef) :
    attributes.map (·.name) <+: (entries.foldl r.addEntry attributes).map (·.name) := by
  induction entries generalizing attributes with
  | nil => exact List.prefix_rfl
  | cons entry entries ih =>
      exact (r.names_prefix_add_entry attributes entry).trans (ih _)

/-- The attributes of an element start with the shared ones, refined in place. -/
theorem names_prefix_attributes_of (r : Repository) (e : ElementDef) :
    (r.sharedAttributes e).map (·.name) <+: (r.attributesOf e).map (·.name) := by
  unfold attributesOf
  rw [List.map_append]
  exact (r.names_prefix_foldl_add_entry e.attributes _).trans (List.prefix_append _ _)

end Repository

/-! ### The check of names -/

namespace Conformance

variable {r : Repository}

/-- `NamesPass r` says the check of names is among the results for `r` and has passed. -/
def NamesPass (r : Repository) : Prop :=
  .passed "elements" "names: ok" ∈ (report r).results

/-- A check that does not pass with lines has passed exactly if it found none. -/
theorem of_violations_eq_passed_iff {validator subject other message : String}
    {violations : List String} {severity : Severity} (h : severity ≠ .pass) :
    Result.passed other message = .ofViolations validator subject violations severity ↔
      violations = [] ∧ other = validator ∧ message = subject ++ ": ok" := by
  cases violations with
  | nil => simp [Result.ofViolations, Result.passed]
  | cons violation violations =>
      simp [Result.ofViolations, Result.passed, Ne.symm h]

/-- The check of names passes exactly if all names have their shapes. -/
theorem names_pass_iff : NamesPass r ↔ r.document.WellNamed := by
  have hchecks : NamesPass r ↔ nameViolations r = [] := by
    unfold NamesPass
    rw [results_report]
    simp only [List.mem_cons, List.not_mem_nil, or_false]
    simp only [of_violations_eq_passed_iff (by decide : Severity.failure ≠ .pass),
      of_violations_eq_passed_iff (by decide : Severity.warning ≠ .pass)]
    simp [Result.passed]
  rw [hchecks, Document.well_named_iff, (reports_names r).eq_nil_iff]

end Conformance

open Conformance Repository

/-- Where the check of names passes, an element whose name has a colon, or lies outside the
namespace of HTML, has the same attributes whatever HTML elements share, unless it names the group
itself. An element whose name has no colon and that refers to the shared attributes starts with one
entry for each of them, under the same names in the same order. -/
theorem shared_attributes_of_names_pass {r : Repository} (h : NamesPass r) :
    (∀ other : Repository, r.AgreesApartFrom other AttributeEntry.htmlGlobalGroup →
      ∀ name, (splitName name).2 ≠ .html ∨ ':' ∈ name.toList →
        (∀ e, r.element? name = some e → .group AttributeEntry.htmlGlobalGroup ∉ e.attributes) →
        r.attributes? name = other.attributes? name) ∧
    ∀ e ∈ r.document.elements, ':' ∉ e.name.toList →
      .group AttributeEntry.globalReference ∈ e.attributes →
      ∃ attributes, r.attributes? e.name = some attributes ∧
        ((r.group? AttributeEntry.htmlGlobalGroup).getD []).map (·.name) <+:
          attributes.map (·.name) := by
  have hnames := names_pass_iff.1 h
  constructor
  · intro other hother name hname hentries
    have hcolon : ':' ∈ name.toList := hname.elim colon_mem_of_split_name id
    have hsame : r.element? name = other.element? name := by
      rw [element?_eq_find?, element?_eq_find?, hother.elements_eq]
    rw [attributes?, attributes?, ← hsame]
    cases hfound : r.element? name with
    | none => rfl
    | some e =>
        obtain ⟨hmem, rfl⟩ := element?_eq_some_iff.1 hfound
        have hqualifier := (hnames.elements e hmem).has_qualifier_iff.2 hcolon
        exact congrArg some (hother.attributes_of_eq hqualifier (hentries e hfound))
  · intro e he hcolon hrefers
    refine ⟨_, attributes?_of_mem he, ?_⟩
    have hplain : hasQualifier e.name = false := by
      rw [Bool.eq_false_iff]
      exact fun hqualifier => hcolon (colon_mem_of_has_qualifier hqualifier)
    have hrefers' : e.refersToGlobals = true := List.contains_iff_mem.2 hrefers
    have hshared : r.sharedAttributes e = (r.group? AttributeEntry.htmlGlobalGroup).getD [] := by
      rw [sharedAttributes, hplain, hrefers']
      rfl
    rw [← hshared]
    exact r.names_prefix_attributes_of e

/-- A plain element that refers to the shared attributes. -/
def division : ElementDef where
  name := "div"
  attributes := [.group AttributeEntry.globalReference]

/-- A qualified element that refers to them too. -/
def circle : ElementDef where
  name := "svg:circle"
  attributes := [.group AttributeEntry.globalReference, .single { name := "r" }]

/-- A document with both elements, where `shared` are the shared attributes. -/
def shapeDocument (shared : List AttributeDef) : Document where
  definitions := {
    attributeGroups := StringMap.empty.insert AttributeEntry.htmlGlobalGroup shared }
  elements := [division, circle]

/-- Other shared attributes leave the attributes of the circle as they were, and the division starts
with the shared ones. -/
theorem shared_attributes_of_circle :
    ∃ r other, ofDocument (shapeDocument [{ name := "id" }, { name := "title" }]) = .ok r ∧
      ofDocument (shapeDocument [{ name := "r", deprecated := some true }]) = .ok other ∧
      NamesPass r ∧ r.attributes? "svg:circle" = other.attributes? "svg:circle" ∧
      ∃ attributes, r.attributes? "div" = some attributes ∧
        ["id", "title"] <+: attributes.map (·.name) := by
  obtain ⟨r, hr⟩ := exists_of_document_iff.2
    (show (shapeDocument [{ name := "id" }, { name := "title" }]).defect? = none by cbv)
  obtain ⟨other, hother⟩ := exists_of_document_iff.2
    (show (shapeDocument [{ name := "r", deprecated := some true }]).defect? = none by cbv)
  have hdocument := document_of_ok hr
  have hpass : NamesPass r := by
    rw [names_pass_iff, Document.well_named_iff, hdocument]
    decide +kernel
  obtain ⟨hqualified, hplain⟩ := shared_attributes_of_names_pass hpass
  refine ⟨r, other, hr, hother, hpass, ?_, ?_⟩
  · have hagrees : r.AgreesApartFrom other AttributeEntry.htmlGlobalGroup := by
      unfold AgreesApartFrom
      rw [hdocument, document_of_ok hother]
      decide +kernel
    refine hqualified other hagrees "svg:circle" (Or.inr (by decide)) fun e he => ?_
    have hcircle : r.element? "svg:circle" = some circle :=
      element?_eq_some_iff.2 ⟨by rw [hdocument]; decide, rfl⟩
    rw [hcircle] at he
    cases he
    decide
  · have hdivision : division ∈ r.document.elements := by
      rw [hdocument]
      decide
    have hgroup : r.group? AttributeEntry.htmlGlobalGroup =
        some [{ name := "id" }, { name := "title" }] := by
      rw [group?_of_document hdocument]
      decide
    obtain ⟨attributes, hfound, hprefix⟩ := hplain division hdivision (by decide) (by decide)
    rw [hgroup] at hprefix
    exact ⟨attributes, hfound, hprefix⟩

end MarkupSemantics
