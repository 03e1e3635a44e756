import MarkupSemantics.Conformance.Suite
import MarkupSemantics.Proofs.Acceptance
import MarkupSemantics.Proofs.Record

/-!
# Reading back what was written

Reading inverts writing for every part of a document, from the smallest record to the document
itself. The main statement is `round_trip_of_document`: nothing is lost, so the check of the written
form passes for every repository.
-/

namespace MarkupSemantics

open Json

/-! ### Conditions and cases -/

/-- One text or several are not written as null. -/
theorem OneOrMany.to_json_ne_null (x : OneOrMany) : x.toJson ≠ .null := by
  cases x <;> exact Json.noConfusion

/-- One text or several are written readably. -/
theorem OneOrMany.readable_to_json (x : OneOrMany) : x.toJson.readable = true := by
  cases x with
  | one value => rfl
  | many values => exact readable_of_strings values

namespace Condition

/-- A condition is read back as it is written. -/
@[simp] theorem of_json?_to_json (c : Condition) : ofJson? c.toJson = some c := by
  -- each field is read by its own lemma, since a case split would double with every field
  obtain ⟨r, hrecord, hown, hancestor⟩ :=
    record?_of_record c.toJson rfl (by simp [optionalField]) ["self", "ancestor"]
  rw [ofJson?, bind_record? hrecord,
    hown.optional OneOrMany.of_json?_to_json OneOrMany.to_json_ne_null, hancestor.optional_string]
  rfl

/-- A condition is written readably. -/
theorem readable_to_json (c : Condition) : c.toJson.readable = true :=
  readable_of_record ⟨readable_optional_field OneOrMany.readable_to_json "self" c.own,
    readable_optional_field (fun _ => rfl) "ancestor" c.ancestor⟩

end Condition

/-- A case is read back if its value is, unless its value stands in the field of its selector. -/
theorem Case.of_json?_to_json {α : Type} {name : String} {read : Json → Option α} {write : α → Json}
    (hname : name ≠ "condition") (hread : ∀ x, read (write x) = some x) (c : Case α) :
    Case.ofJson? name read (c.toJson name write) = some c := by
  obtain ⟨r, hrecord, hcondition, hvalue⟩ :=
    record?_of_record (c.toJson name write) rfl (by simpa [field] using hname.symm)
      ["condition", name]
  rw [Case.ofJson?, bind_record? hrecord, hcondition.string, hvalue.required (hread c.value)]
  rfl

/-! ### Roles of an element -/

namespace ImplicitRole

/-- The role without a condition is read back as it is written, also if there is none. -/
theorem role?_role_json (role : Option String) : role? (roleJson role) = some role := by
  cases role <;> rfl

/-- An implicit role is read back as it is written. -/
@[simp] theorem of_json?_to_json (role : ImplicitRole) : ofJson? role.toJson = some role := by
  obtain ⟨r, hrecord, hrole, hcases⟩ :=
    record?_of_record role.toJson rfl (by simp [field, listField]) ["role", "conditions"]
  rw [ofJson?, bind_record? hrecord, hrole.default (role?_role_json role.role),
    hcases.list_of_list_field (Case.of_json?_to_json (by decide) string?_string)]
  rfl

end ImplicitRole

namespace PermittedRoles

/-- Permitted roles are read back as they are written. -/
@[simp] theorem of_json?_to_json (p : PermittedRoles) : ofJson? p.toJson = some p := by
  obtain ⟨r, hrecord, hbase, hcases⟩ :=
    record?_of_record p.toJson rfl (by simp [field, listField]) ["roles", "conditions"]
  rw [ofJson?, bind_record? hrecord, hbase.required (Permission.of_json?_to_json p.base),
    hcases.list_of_list_field (Case.of_json?_to_json (by decide) Permission.of_json?_to_json)]
  rfl

end PermittedRoles

/-! ### Attributes -/

namespace AttributeDef

/-- An attribute is read back as it is written. -/
@[simp] theorem of_json?_to_json (a : AttributeDef) : ofJson? a.toJson = some a := by
  obtain ⟨r, hrecord, hname, htype, hdescription, hcondition, hcase, hexperimental, hobsolete,
      hdeprecated, hnonStandard⟩ :=
    record?_of_record a.toJson rfl (by simp [field, optionalField]) fields
  have hnull : ∀ c : Condition, c.toJson ≠ .null := fun _ => Json.noConfusion
  rw [ofJson?, bind_record? hrecord, hname.string,
    htype.optional OneOrMany.of_json?_to_json OneOrMany.to_json_ne_null,
    hdescription.optional_string, hcondition.optional Condition.of_json?_to_json hnull,
    hcase.optional_bool, hexperimental.optional_bool, hobsolete.optional_bool,
    hdeprecated.optional_bool, hnonStandard.optional_bool]
  rfl

/-- An attribute is written readably. -/
theorem readable_to_json (a : AttributeDef) : a.toJson.readable = true := by
  have hname : ∀ value ∈ (field "name" (.string a.name)).2, value.readable = true := by
    rintro value ⟨⟩
    rfl
  exact readable_of_record ⟨hname,
    readable_optional_field OneOrMany.readable_to_json "type" a.type,
    readable_optional_field (fun _ => rfl) "description" a.description,
    readable_optional_field Condition.readable_to_json "condition" a.condition,
    readable_optional_field (fun _ => rfl) "caseSensitive" a.caseSensitive,
    readable_optional_field (fun _ => rfl) "experimental" a.experimental,
    readable_optional_field (fun _ => rfl) "obsolete" a.obsolete,
    readable_optional_field (fun _ => rfl) "deprecated" a.deprecated,
    readable_optional_field (fun _ => rfl) "nonStandard" a.nonStandard⟩

end AttributeDef

namespace AttributeEntry

/-- An entry is read back as it is written, a group as a group and an attribute as an attribute. -/
@[simp] theorem of_json?_to_json (entry : AttributeEntry) : ofJson? entry.toJson = some entry := by
  cases entry with
  | group name => rfl
  | single a =>
      show (if a.toJson.readable then (AttributeDef.ofJson? a.toJson).map single else none) = _
      rw [if_pos a.readable_to_json, AttributeDef.of_json?_to_json]
      rfl

end AttributeEntry

/-! ### Elements -/

namespace ContentModel

/-- A content model is read back as it is written. -/
@[simp] theorem of_json?_to_json (m : ContentModel) : ofJson? m.toJson = some m := by
  obtain ⟨r, hrecord, hcontents, hdescendant⟩ :=
    record?_of_record m.toJson rfl (by simp [field, optionalField])
      ["contents", "descendantOf"]
  rw [ofJson?, bind_record? hrecord, hcontents.strings, hdescendant.optional_string]
  rfl

end ContentModel

namespace ElementDef

/-- An element is read back as it is written. -/
@[simp] theorem of_json?_to_json (e : ElementDef) : ofJson? e.toJson = some e := by
  obtain ⟨r, hrecord, hname, hnamespace, hcite, hdescription, hexperimental, hobsolete, hdeprecated,
      hnonStandard, hcategories, hcontent, hgroups, hattributes, himplicit, hpermitted, hopen⟩ :=
    record?_of_record e.toJson rfl (by simp [field, flagField, optionalField]) fields
  have hnull : ∀ ns : Namespace, ns.toJson ≠ .null := fun _ => Json.noConfusion
  have hnullImplicit : ∀ role : ImplicitRole, role.toJson ≠ .null := fun _ => Json.noConfusion
  have hnullPermitted : ∀ roles : PermittedRoles, roles.toJson ≠ .null := fun _ => Json.noConfusion
  rw [ofJson?, bind_record? hrecord, hname.string,
    hnamespace.optional Namespace.of_json?_to_json hnull, hcite.default (string?_string e.cite),
    hdescription.optional_string, hexperimental.flag, hobsolete.flag, hdeprecated.flag,
    hnonStandard.flag, hcategories.strings, hcontent.default e.contentModel.of_json?_to_json,
    hgroups.default (map?_of_map bool?_bool e.globalAttributes),
    hattributes.list AttributeEntry.of_json?_to_json,
    himplicit.optional ImplicitRole.of_json?_to_json hnullImplicit,
    hpermitted.optional PermittedRoles.of_json?_to_json hnullPermitted, hopen.flag]
  rfl

end ElementDef

/-! ### Vocabularies -/

namespace Aria

/-- An owned property is read back as it is written. -/
@[simp] theorem OwnedProperty.of_json?_to_json (p : OwnedProperty) : ofJson? p.toJson = some p := by
  obtain ⟨r, hrecord, hname, hinherited, hrequired, hdeprecated⟩ :=
    record?_of_record p.toJson rfl (by simp [field, flagField])
      ["name", "inherited", "required", "deprecated"]
  rw [ofJson?, bind_record? hrecord, hname.string, hinherited.flag, hrequired.flag,
    hdeprecated.flag]
  rfl

/-- A role is read back as it is written. -/
@[simp] theorem Role.of_json?_to_json (role : Role) : Role.ofJson? role.toJson = some role := by
  obtain ⟨r, hrecord, hname, hdescription, habstract, hgeneralization, hcontext, howned, hrequired,
      hauthor, hcontent, hprohibited, hchildren, hproperties, hprohibitedProperties⟩ :=
    record?_of_record role.toJson rfl (by simp [field, optionalField]) fields
  rw [ofJson?, bind_record? hrecord, hname.string, hdescription.optional_string,
    habstract.flag_of_field, hgeneralization.strings, hcontext.strings, howned.strings,
    hrequired.flag_of_field, hauthor.flag_of_field, hcontent.flag_of_field,
    hprohibited.flag_of_field, hchildren.flag_of_field,
    hproperties.list OwnedProperty.of_json?_to_json, hprohibitedProperties.strings]
  rfl

/-- Another type of values is read back as it is written. -/
@[simp] theorem Override.of_json?_to_json (o : Override) : ofJson? o.toJson = some o := by
  obtain ⟨r, hrecord, hroles, hvalue⟩ :=
    record?_of_record o.toJson rfl (by simp [field]) ["role", "value"]
  rw [ofJson?, bind_record? hrecord, hroles.required (strings?_of_strings o.roles),
    hvalue.required o.value.of_json?_to_json]
  rfl

/-- An equivalent value that is absent is written as null, which is read as absent. -/
theorem HtmlEquivalent.optional_value_json {r : Record} {value : Option String}
    (h : r.Holds (field "value" (valueJson value))) : r.optional "value" string? = some value := by
  rw [Record.optional, show r.lookup "value" = some (valueJson value) from h]
  cases value <;> rfl

/-- An equivalent attribute is read back as it is written. -/
@[simp] theorem HtmlEquivalent.of_json?_to_json (e : HtmlEquivalent) :
    ofJson? e.toJson = some e := by
  obtain ⟨r, hrecord, hname, hstrict, hvalue⟩ :=
    record?_of_record e.toJson rfl (by simp [field, flagField])
      ["htmlAttrName", "isNotStrictEquivalent", "value"]
  rw [ofJson?, bind_record? hrecord, hname.string, hstrict.flag, optional_value_json hvalue]
  rfl

/-- A property is read back as it is written. -/
@[simp] theorem Property.of_json?_to_json (p : Property) : ofJson? p.toJson = some p := by
  obtain ⟨r, hrecord, hname, hkind, hdeprecated, hglobal, hvalue, hoverrides, htokens, hdefault,
      hequivalents, hdescriptions⟩ :=
    record?_of_record p.toJson rfl
      (by simp [field, flagField, optionalField, listField, mapField]) fields
  rw [ofJson?, bind_record? hrecord, hname.string, hkind.required p.kind.of_json?_to_json,
    hdeprecated.flag, hglobal.flag, hvalue.required p.value.of_json?_to_json,
    hoverrides.list_of_list_field Override.of_json?_to_json, htokens.strings,
    hdefault.optional_string, hequivalents.list_of_list_field HtmlEquivalent.of_json?_to_json,
    hdescriptions.map_of_map_field string?_string]
  rfl

/-- The vocabulary of one version is read back as it is written. -/
@[simp] theorem Vocabulary.of_json?_to_json (v : Vocabulary) : ofJson? v.toJson = some v := by
  obtain ⟨r, hrecord, hroles, hgraphics, hproperties⟩ :=
    record?_of_record v.toJson rfl (by simp [field]) ["roles", "graphicsRoles", "props"]
  rw [ofJson?, bind_record? hrecord, hroles.list Role.of_json?_to_json,
    hgraphics.list Role.of_json?_to_json, hproperties.list Property.of_json?_to_json]
  rfl

/-- Both vocabularies are read back as they are written. -/
@[simp] theorem Vocabularies.of_json?_to_json (v : Vocabularies) : ofJson? v.toJson = some v := by
  obtain ⟨r, hrecord, h12, h11⟩ :=
    record?_of_record v.toJson rfl (by simp [field]) ["1.2", "1.1"]
  rw [ofJson?, bind_record? hrecord, h12.required v.v12.of_json?_to_json,
    h11.required v.v11.of_json?_to_json]
  rfl

end Aria

/-! ### Documents -/

namespace Definitions

/-- Shared definitions are read back as they are written. -/
@[simp] theorem of_json?_to_json (d : Definitions) : ofJson? d.toJson = some d := by
  obtain ⟨r, hrecord, hgroups, haria, hmodels⟩ :=
    record?_of_record d.toJson rfl (by simp [field])
      ["#globalAttrs", "#aria", "#contentModels"]
  have hlists : ∀ attributes : List AttributeDef,
      list? AttributeDef.ofJson? (.ofList AttributeDef.toJson attributes) = some attributes :=
    fun _ => list?_of_list fun a _ => a.of_json?_to_json
  rw [ofJson?, bind_record? hrecord, hgroups.default (map?_of_map hlists d.attributeGroups),
    haria.default d.aria.of_json?_to_json,
    hmodels.default (map?_of_map strings?_of_strings d.contentModels)]
  rfl

end Definitions

namespace Document

/-- A document is read back from what is written for it. -/
@[simp] theorem of_json?_to_json (d : Document) : ofJson? d.toJson = some d := by
  obtain ⟨r, hrecord, hcites, hdefinitions, helements⟩ :=
    record?_of_record d.toJson rfl (by simp [field]) ["cites", "def", "specs"]
  rw [ofJson?, bind_record? hrecord, hcites.strings,
    hdefinitions.required d.definitions.of_json?_to_json,
    helements.required (list?_of_list fun e _ => e.of_json?_to_json)]
  rfl

end Document

namespace Conformance

/-- The check of the written form finds nothing. -/
theorem reload_violations_eq_nil (r : Repository) : reloadViolations r.document = [] := by
  rw [reloadViolations, Document.of_json?_to_json]
  simp [r.defect?_document]

/-- Every document is read back from what is written for it, exactly as it was. So what is written
for a repository is read back and accepted, with the same repository, and the check of the written
form passes. -/
theorem round_trip_of_document :
    (∀ d : Document, Document.ofJson? d.toJson = some d) ∧
      ∀ (d : Document) (r : Repository), Repository.ofDocument d = .ok r →
        (∃ reloaded, Document.ofJson? r.document.toJson = some reloaded ∧
          Repository.ofDocument reloaded = .ok r) ∧
        (documentReport r).results = [.passed "serialization/json" "round trip: ok"] := by
  refine ⟨Document.of_json?_to_json, fun d r h => ⟨⟨d, ?_, h⟩, ?_⟩⟩
  · rw [Repository.document_of_ok h, Document.of_json?_to_json]
  · rw [documentReport, reload_violations_eq_nil]
    rfl

end Conformance

end MarkupSemantics
