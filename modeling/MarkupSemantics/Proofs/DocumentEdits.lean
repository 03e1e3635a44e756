import MarkupSemantics.Proofs.JsonEdits
import MarkupSemantics.Repository

/-!
# Edits of a document

The shape of every record of a document, from the condition of an attribute to the document itself,
and that its reader passes over the edits of that shape. An attribute entry is either the name of a
group or a record; an edit of the record never makes it a name. The main statement is
`document_of_edits`.
-/

namespace MarkupSemantics

open Json (Field Shape Edit)
open Json.Shape (Unseen)

/-! ### Conditions and cases -/

namespace Condition

/-- What a condition is read from. -/
def shape : Shape :=
  .record [.optional "self" .whole, .optional "ancestor" .whole]

/-- The reader of conditions passes over edits. -/
theorem unseen : shape.Unseen ofJson? := by
  refine .record rfl (by decide) fun r r' hfields => ?_
  obtain ⟨hown, hancestor⟩ := hfields
  rw [hown.optional nofun (.whole _), hancestor.optional nofun (.whole _)]

end Condition

namespace Case

/-- What a case is read from whose value is in the given field. -/
def shape (field : String) : Shape :=
  .record [.plain "condition" .whole, .plain field .whole]

/-- The reader of cases passes over edits. -/
theorem unseen {α : Type} {field : String} (hfield : field ≠ "condition")
    (read : Json → Option α) : (shape field).Unseen (ofJson? field read) := by
  refine .record rfl (by simpa using hfield.symm) fun r r' hfields => ?_
  obtain ⟨hcondition, hvalue⟩ := hfields
  rw [hcondition.required (.whole _), hvalue.required (.whole _)]

end Case

/-! ### Roles of an element -/

namespace ImplicitRole

/-- What an implicit role is read from. -/
def shape : Shape :=
  .record [.optional "role" .stringOrNothing, .plain "conditions" (.list (Case.shape "role"))]

/-- Null and what stands for a missing string are read as no role. -/
theorem role?_of_mem_nothings {value : Json} (h : value ∈ Json.nothings) :
    role? value = some none := by
  rcases List.mem_cons.1 h with rfl | h
  · rfl
  · rcases List.mem_pair.1 h with rfl | rfl <;> rfl

/-- The reader of the role without a condition passes over edits. -/
theorem unseen_role : Shape.stringOrNothing.Unseen role? := by
  intro json json' hedit
  cases hedit with
  | exchange hvalue hvalue' => rw [role?_of_mem_nothings hvalue, role?_of_mem_nothings hvalue']

/-- The reader of implicit roles passes over edits. -/
theorem unseen : shape.Unseen ofJson? := by
  refine .record rfl (by decide) fun r r' hfields => ?_
  obtain ⟨hrole, hcases⟩ := hfields
  rw [hrole.default_of_null unseen_role rfl, hcases.list (Case.unseen (by decide) _)]

end ImplicitRole

namespace PermittedRoles

/-- What permitted roles are read from. -/
def shape : Shape :=
  .record [.plain "roles" .whole, .plain "conditions" (.list (Case.shape "roles"))]

/-- The reader of permitted roles passes over edits. -/
theorem unseen : shape.Unseen ofJson? := by
  refine .record rfl (by decide) fun r r' hfields => ?_
  obtain ⟨hbase, hcases⟩ := hfields
  rw [hbase.required (.whole _), hcases.list (Case.unseen (by decide) _)]

end PermittedRoles

/-! ### Attributes -/

namespace AttributeDef

/-- What an attribute is read from. -/
def shape : Shape :=
  .record [
    .plain "name" .whole,
    .optional "type" .whole,
    .optional "description" .whole,
    .optional "condition" Condition.shape,
    .optional "caseSensitive" .whole,
    .optional "experimental" .whole,
    .optional "obsolete" .whole,
    .optional "deprecated" .whole,
    .optional "nonStandard" .whole]

/-- The reader of attributes passes over edits. -/
theorem unseen : shape.Unseen ofJson? := by
  refine .record rfl (by decide) fun r r' hfields => ?_
  obtain ⟨hname, htype, hdescription, hcondition, hcase, hexperimental, hobsolete, hdeprecated,
    hnonStandard⟩ := hfields
  rw [hname.required (.whole _), htype.optional nofun (.whole _),
    hdescription.optional nofun (.whole _), hcondition.optional nofun Condition.unseen,
    hcase.optional nofun (.whole _), hexperimental.optional nofun (.whole _),
    hobsolete.optional nofun (.whole _), hdeprecated.optional nofun (.whole _),
    hnonStandard.optional nofun (.whole _)]

end AttributeDef

namespace AttributeEntry

/-- An entry that is no string is read as an attribute. -/
theorem of_json?_of_ne_string {json : Json} (h : ∀ text, json ≠ .string text) :
    ofJson? json =
      if json.readable then (AttributeDef.ofJson? json).map single else none := by
  cases json with
  | string text => exact absurd rfl (h text)
  | _ => rfl

/-- An edit of the record of an attribute does not turn the entry into the name of a group. -/
theorem unseen : AttributeDef.shape.Unseen ofJson? := by
  intro json json' hedit
  rw [of_json?_of_ne_string fun text => (hedit.ne_string text).1,
    of_json?_of_ne_string fun text => (hedit.ne_string text).2,
    hedit.readable_eq, AttributeDef.unseen _ _ hedit]

end AttributeEntry

/-! ### Elements -/

namespace ContentModel

/-- What a content model is read from. -/
def shape : Shape :=
  .record [.plain "contents" .whole, .optional "descendantOf" .whole]

/-- The reader of content models passes over edits. -/
theorem unseen : shape.Unseen ofJson? := by
  refine .record rfl (by decide) fun r r' hfields => ?_
  obtain ⟨hcontents, hdescendant⟩ := hfields
  rw [hcontents.list_whole, hdescendant.optional nofun (.whole _)]

end ContentModel

namespace ElementDef

/-- What an element is read from. -/
def shape : Shape :=
  .record [
    .plain "name" .whole,
    .optional "namespace" .whole,
    .plain "cite" .whole,
    .optional "description" .whole,
    .plain "experimental" .whole,
    .plain "obsolete" .whole,
    .plain "deprecated" .whole,
    .plain "nonStandard" .whole,
    .plain "categories" .whole,
    .plain "contentModel" ContentModel.shape,
    .plain "globalAttrs" .whole,
    .plain "attributes" (.list AttributeDef.shape),
    .optional "implicitRole" ImplicitRole.shape,
    .optional "permittedRoles" PermittedRoles.shape,
    .plain "possibleToAddProperties" .whole]

/-- The reader of elements passes over edits. -/
theorem unseen : shape.Unseen ofJson? := by
  refine .record rfl (by decide) fun r r' hfields => ?_
  obtain ⟨hname, hns, hcite, hdescription, hexperimental, hobsolete, hdeprecated, hnonStandard,
    hcategories, hmodel, hgroups, hattributes, himplicit, hpermitted, hpossible⟩ := hfields
  rw [hname.required (.whole _), hns.optional nofun (.whole _), hcite.default (.whole _),
    hdescription.optional nofun (.whole _), hexperimental.flag, hobsolete.flag, hdeprecated.flag,
    hnonStandard.flag, hcategories.list_whole, hmodel.default ContentModel.unseen,
    hgroups.default (.whole _), hattributes.list AttributeEntry.unseen,
    himplicit.optional nofun ImplicitRole.unseen, hpermitted.optional nofun PermittedRoles.unseen,
    hpossible.flag]

end ElementDef

/-! ### Vocabularies -/

namespace Aria

namespace OwnedProperty

/-- What an owned property is read from. -/
def shape : Shape :=
  .record [
    .plain "name" .whole,
    .plain "inherited" .whole,
    .plain "required" .whole,
    .plain "deprecated" .whole]

/-- The reader of owned properties passes over edits. -/
theorem unseen : shape.Unseen ofJson? := by
  refine .record rfl (by decide) fun r r' hfields => ?_
  obtain ⟨hname, hinherited, hrequired, hdeprecated⟩ := hfields
  rw [hname.required (.whole _), hinherited.flag, hrequired.flag, hdeprecated.flag]

end OwnedProperty

namespace Role

/-- What a role is read from. -/
def shape : Shape :=
  .record [
    .plain "name" .whole,
    .optional "description" .whole,
    .plain "isAbstract" .whole,
    .plain "generalization" .whole,
    .plain "requiredContextRole" .whole,
    .plain "requiredOwnedElements" .whole,
    .plain "accessibleNameRequired" .whole,
    .plain "accessibleNameFromAuthor" .whole,
    .plain "accessibleNameFromContent" .whole,
    .plain "accessibleNameProhibited" .whole,
    .plain "childrenPresentational" .whole,
    .plain "ownedProperties" (.list OwnedProperty.shape),
    .plain "prohibitedProperties" .whole]

/-- The reader of roles passes over edits. -/
theorem unseen : shape.Unseen ofJson? := by
  refine .record rfl (by decide) fun r r' hfields => ?_
  obtain ⟨hname, hdescription, habstract, hparents, hcontext, howned, hrequired, hauthor, hcontent,
    hprohibited, hchildren, hproperties, hforbidden⟩ := hfields
  rw [hname.required (.whole _), hdescription.optional nofun (.whole _), habstract.flag,
    hparents.list_whole, hcontext.list_whole, howned.list_whole, hrequired.flag, hauthor.flag,
    hcontent.flag, hprohibited.flag, hchildren.flag, hproperties.list OwnedProperty.unseen,
    hforbidden.list_whole]

end Role

namespace Override

/-- What another type of values is read from. -/
def shape : Shape :=
  .record [.plain "role" .whole, .plain "value" .whole]

/-- The reader of other types of values passes over edits. -/
theorem unseen : shape.Unseen ofJson? := by
  refine .record rfl (by decide) fun r r' hfields => ?_
  obtain ⟨hroles, hvalue⟩ := hfields
  rw [hroles.required (.whole _), hvalue.required (.whole _)]

end Override

namespace HtmlEquivalent

/-- What an equivalent attribute is read from. -/
def shape : Shape :=
  .record [
    .plain "htmlAttrName" .whole,
    .plain "isNotStrictEquivalent" .whole,
    .optional "value" .whole]

/-- The reader of equivalent attributes passes over edits. -/
theorem unseen : shape.Unseen ofJson? := by
  refine .record rfl (by decide) fun r r' hfields => ?_
  obtain ⟨hname, hstrict, hvalue⟩ := hfields
  rw [hname.required (.whole _), hstrict.flag, hvalue.optional nofun (.whole _)]

end HtmlEquivalent

namespace Property

/-- What a property is read from. -/
def shape : Shape :=
  .record [
    .plain "name" .whole,
    .plain "type" .whole,
    .plain "deprecated" .whole,
    .plain "isGlobal" .whole,
    .plain "value" .whole,
    .plain "conditionalValue" (.list Override.shape),
    .plain "enum" .whole,
    .optional "defaultValue" .whole,
    .plain "equivalentHtmlAttrs" (.list HtmlEquivalent.shape),
    .plain "valueDescriptions" .whole]

/-- The reader of properties passes over edits. -/
theorem unseen : shape.Unseen ofJson? := by
  refine .record rfl (by decide) fun r r' hfields => ?_
  obtain ⟨hname, hkind, hdeprecated, hglobal, hvalue, hoverrides, htokens, hdefault, hequivalents,
    hdescriptions⟩ := hfields
  rw [hname.required (.whole _), hkind.required (.whole _), hdeprecated.flag, hglobal.flag,
    hvalue.required (.whole _), hoverrides.list Override.unseen, htokens.list_whole,
    hdefault.optional nofun (.whole _), hequivalents.list HtmlEquivalent.unseen,
    hdescriptions.default (.whole _)]

end Property

namespace Vocabulary

/-- What the vocabulary of one version is read from. -/
def shape : Shape :=
  .record [
    .plain "roles" (.list Role.shape),
    .plain "graphicsRoles" (.list Role.shape),
    .plain "props" (.list Property.shape)]

/-- The reader of the vocabulary of one version passes over edits. -/
theorem unseen : shape.Unseen ofJson? := by
  refine .record rfl (by decide) fun r r' hfields => ?_
  obtain ⟨hroles, hgraphics, hproperties⟩ := hfields
  rw [hroles.list Role.unseen, hgraphics.list Role.unseen, hproperties.list Property.unseen]

end Vocabulary

namespace Vocabularies

/-- What both vocabularies are read from. -/
def shape : Shape :=
  .record [.plain "1.2" Vocabulary.shape, .plain "1.1" Vocabulary.shape]

/-- The reader of both vocabularies passes over edits. -/
theorem unseen : shape.Unseen ofJson? := by
  refine .record rfl (by decide) fun r r' hfields => ?_
  obtain ⟨h12, h11⟩ := hfields
  rw [h12.required Vocabulary.unseen, h11.required Vocabulary.unseen]

end Vocabularies

end Aria

/-! ### Documents -/

namespace Definitions

/-- What shared definitions are read from. -/
def shape : Shape :=
  .record [
    .plain "#globalAttrs" (.map (.list AttributeDef.shape)),
    .plain "#aria" Aria.Vocabularies.shape,
    .plain "#contentModels" .whole]

/-- The reader of shared definitions passes over edits. -/
theorem unseen : shape.Unseen ofJson? := by
  refine .record rfl (by decide) fun r r' hfields => ?_
  obtain ⟨hgroups, haria, hmodels⟩ := hfields
  rw [hgroups.default AttributeDef.unseen.list.map, haria.default Aria.Vocabularies.unseen,
    hmodels.default (.whole _)]

end Definitions

namespace Document

/-- What a document is read from. -/
def shape : Shape :=
  .record [
    .plain "cites" .whole,
    .plain "def" Definitions.shape,
    .plain "specs" (.list ElementDef.shape)]

/-- The reader of documents passes over edits. -/
theorem unseen : shape.Unseen ofJson? := by
  refine .record rfl (by decide) fun r r' hfields => ?_
  obtain ⟨hcites, hdefinitions, helements⟩ := hfields
  rw [hcites.list_whole, hdefinitions.required Definitions.unseen,
    helements.required ElementDef.unseen.list]

/-- Any number of edits, made or undone and at any depth, leave the document that is read from a
JSON value as it is, and a value that gives no document still gives none. So they give the same
repository, and with it the same answers. -/
theorem document_of_edits {json json' : Json}
    (h : Relation.EqvGen (Edit shape) json json') :
    ofJson? json' = ofJson? json ∧
      ∀ r, (∃ d, ofJson? json' = some d ∧ Repository.ofDocument d = .ok r) ↔
        ∃ d, ofJson? json = some d ∧ Repository.ofDocument d = .ok r := by
  have hsame : ofJson? json' = ofJson? json := (unseen.eq_of_edits h).symm
  exact ⟨hsame, fun r => by rw [hsame]⟩

/-- `anchor note description role` is a document with one element, with the members `note` of the
document and `description` of the element added, and the given value for the role of the element. -/
def anchor (note description : List (String × Json)) (role : Json) : Json :=
  .object (note ++ [("def", .object []), ("specs", .array [.object (
    description ++ [("name", .string "a"), ("implicitRole", .object [("role", role)])])])])

/-- An unknown member, a description that is null and a role that is null instead of false are three
edits. -/
theorem edits_anchor :
    Relation.EqvGen (Edit shape) (anchor [] [] (.bool false))
      (anchor [("note", .null)] [("description", .null)] .null) := by
  have hspecs : ∀ {element element' : Json}, Edit ElementDef.shape element element' →
      Edit shape (.object [("def", .object []), ("specs", .array [element])])
        (.object [("def", .object []), ("specs", .array [element'])]) := fun hedit =>
    .member (.plain "specs" (.list ElementDef.shape)) [("def", .object [])] [] (by simp)
      (.item [] [] hedit)
  have hrole : Edit shape (anchor [] [] (.bool false)) (anchor [] [] .null) :=
    hspecs (.member (.optional "implicitRole" ImplicitRole.shape) [("name", .string "a")] []
      (by simp) (.member (.optional "role" .stringOrNothing) [] [] (by simp)
        (.exchange (by simp [Json.nothings]) (by simp [Json.nothings]))))
  have hdescription : Edit shape (anchor [] [("description", .null)] .null)
      (anchor [] [] .null) :=
    hspecs (.absent (.optional "description" .whole) [] _ (by simp) rfl (by decide))
  have hnote : Edit shape (anchor [] [("description", .null)] .null)
      (anchor [("note", .null)] [("description", .null)] .null) :=
    .extra [] _ (by decide) rfl
  exact .trans _ _ _ (.rel _ _ hrole) (.trans _ _ _ (.symm _ _ (.rel _ _ hdescription))
    (.rel _ _ hnote))

/-- The three edits leave the document with its one element, which has no role of its own. -/
theorem document_of_edited_anchor :
    ofJson? (anchor [("note", .null)] [("description", .null)] .null) =
      some { elements := [{ name := "a", implicitRole := some {} }] } := by
  rw [(document_of_edits edits_anchor).1]
  decide

end Document

end MarkupSemantics
