import MarkupSemantics.Proofs.PrintedJson
import MarkupSemantics.Proofs.RoundTrip

/-!
# Reading back a printed document

A document is written without numbers, record by record, so its indented text is read as what is
written. The main statement is `reload_of_text`: the text of a repository is read back as its
document, which is accepted again.
-/

namespace MarkupSemantics

open Json

/-! ### Fields -/

/-- `PlainField field` says `field` is left out or has a plain value. -/
def PlainField (field : String × Option Json) : Prop :=
  ∀ value ∈ field.2, Plain value

namespace PlainField

variable {α : Type} {write : α → Json}

/-- A field with a plain value is plain. -/
theorem field {json : Json} (h : Plain json) (name : String) :
    PlainField (Json.field name json) := by
  rintro value ⟨⟩
  exact h

/-- An optional field is plain if every value is written as a plain one. -/
theorem optional (h : ∀ x, Plain (write x)) (name : String) (value : Option α) :
    PlainField (optionalField name write value) := by
  intro json hjson
  obtain ⟨x, _, rfl⟩ := Option.map_eq_some_iff.1 hjson
  exact h x

/-- A flag is plain. -/
theorem flag (name : String) (value : Bool) : PlainField (flagField name value) := by
  cases value <;> rintro json ⟨⟩
  exact .bool true

end PlainField

/-- A record with plain fields is plain. -/
theorem Json.Plain.of_record {fields : List (String × Option Json)}
    (h : fields.Forall PlainField) : Plain (.ofRecord fields) := by
  refine .object fun member hmember => ?_
  obtain ⟨⟨name, written⟩, hfield, hvalue⟩ := List.mem_filterMap.1 hmember
  obtain ⟨value, hwritten, rfl⟩ := Option.map_eq_some_iff.1 hvalue
  exact List.forall_iff_forall_mem.1 h _ hfield value hwritten

/-- A list is plain if every item is written as a plain value. -/
theorem Json.Plain.of_list {α : Type} {write : α → Json} (h : ∀ x, Plain (write x)) (xs : List α) :
    Plain (.ofList write xs) := by
  refine .array fun item hitem => ?_
  obtain ⟨x, _, rfl⟩ := List.mem_map.1 hitem
  exact h x

/-- A list of strings is plain. -/
theorem Json.Plain.of_strings (xs : List String) : Plain (.ofStrings xs) :=
  .of_list .string xs

/-- A map is plain if every value is written as a plain one. -/
theorem Json.Plain.of_map {α : Type} {write : α → Json} (h : ∀ x, Plain (write x))
    (m : StringMap α) : Plain (.ofMap write m) := by
  refine .object fun member hmember => ?_
  obtain ⟨entry, _, rfl⟩ := List.mem_map.1 hmember
  exact h entry.2

namespace PlainField

variable {α : Type} {write : α → Json}

/-- A field with a list of strings is plain. -/
theorem strings (name : String) (xs : List String) : PlainField (Json.field name (.ofStrings xs)) :=
  .field (.of_strings xs) name

/-- A list that is left out when it is empty is plain if every item is written as a plain value. -/
theorem list (h : ∀ x, Plain (write x)) (name : String) (xs : List α) :
    PlainField (listField name write xs) := by
  cases xs with
  | nil => rintro json ⟨⟩
  | cons x xs => exact field (.of_list h (x :: xs)) name

/-- A map that is left out when it is empty is plain if every value is written as a plain one. -/
theorem map (h : ∀ x, Plain (write x)) (name : String) (m : StringMap α) :
    PlainField (mapField name write m) := by
  intro json hjson
  rw [mapField] at hjson
  split at hjson
  · cases hjson
  · cases hjson
    exact .of_map h m

end PlainField

/-! ### Records -/

/-- One text or several are written as a plain value. -/
theorem OneOrMany.plain_to_json (x : OneOrMany) : Plain x.toJson := by
  cases x with
  | one value => exact .string value
  | many values => exact .of_strings values

/-- A condition is written as a plain value. -/
theorem Condition.plain_to_json (c : Condition) : Plain c.toJson :=
  .of_record ⟨.optional OneOrMany.plain_to_json _ _, .optional .string _ _⟩

/-- A case is written as a plain value if what applies is. -/
theorem Case.plain_to_json {α : Type} {write : α → Json} (h : ∀ x, Plain (write x)) (name : String)
    (c : Case α) : Plain (c.toJson name write) :=
  .of_record ⟨.field (.string _) _, .field (h _) _⟩

/-- An implicit role is written as a plain value. -/
theorem ImplicitRole.plain_to_json (role : ImplicitRole) : Plain role.toJson := by
  have hrole : Plain (roleJson role.role) := by
    cases role.role with
    | none => exact .bool false
    | some name => exact .string name
  exact .of_record ⟨.field hrole _, .list (Case.plain_to_json .string _) _ _⟩

/-- A permission is written as a plain value. -/
theorem Permission.plain_to_json (p : Permission) : Plain p.toJson := by
  cases p with
  | any => exact .bool true
  | only roles => exact .of_strings roles
  | none => exact .bool false

/-- Permitted roles are written as a plain value. -/
theorem PermittedRoles.plain_to_json (p : PermittedRoles) : Plain p.toJson :=
  .of_record ⟨.field p.base.plain_to_json _,
    .list (Case.plain_to_json Permission.plain_to_json _) _ _⟩

/-- An attribute is written as a plain value. -/
theorem AttributeDef.plain_to_json (a : AttributeDef) : Plain a.toJson :=
  .of_record ⟨.field (.string _) _, .optional OneOrMany.plain_to_json _ _, .optional .string _ _,
    .optional Condition.plain_to_json _ _, .optional .bool _ _, .optional .bool _ _,
    .optional .bool _ _, .optional .bool _ _, .optional .bool _ _⟩

/-- An entry is written as a plain value. -/
theorem AttributeEntry.plain_to_json (entry : AttributeEntry) : Plain entry.toJson := by
  cases entry with
  | group name => exact .string name
  | single a => exact a.plain_to_json

/-- A content model is written as a plain value. -/
theorem ContentModel.plain_to_json (m : ContentModel) : Plain m.toJson :=
  .of_record ⟨.strings _ _, .optional .string _ _⟩

/-- A namespace is written as a plain value. -/
theorem Namespace.plain_to_json (ns : Namespace) : Plain ns.toJson :=
  .string _

/-- An element is written as a plain value. -/
theorem ElementDef.plain_to_json (e : ElementDef) : Plain e.toJson :=
  .of_record ⟨.field (.string _) _, .optional Namespace.plain_to_json _ _, .field (.string _) _,
    .optional .string _ _, .flag _ _, .flag _ _, .flag _ _, .flag _ _, .strings _ _,
    .field e.contentModel.plain_to_json _, .field (.of_map .bool _) _,
    .field (.of_list AttributeEntry.plain_to_json _) _, .optional ImplicitRole.plain_to_json _ _,
    .optional PermittedRoles.plain_to_json _ _, .flag _ _⟩

namespace Aria

/-- An owned property is written as a plain value. -/
theorem OwnedProperty.plain_to_json (p : OwnedProperty) : Plain p.toJson :=
  .of_record ⟨.field (.string _) _, .flag _ _, .flag _ _, .flag _ _⟩

/-- A role is written as a plain value. -/
theorem Role.plain_to_json (role : Role) : Plain role.toJson :=
  .of_record ⟨.field (.string _) _, .optional .string _ _, .field (.bool _) _, .strings _ _,
    .strings _ _, .strings _ _, .field (.bool _) _, .field (.bool _) _, .field (.bool _) _,
    .field (.bool _) _, .field (.bool _) _, .field (.of_list OwnedProperty.plain_to_json _) _,
    .strings _ _⟩

/-- A type of values is written as a plain value. -/
theorem ValueType.plain_to_json (type : ValueType) : Plain type.toJson := by
  cases type <;> exact .string _

/-- Another type of values is written as a plain value. -/
theorem Override.plain_to_json (o : Override) : Plain o.toJson :=
  .of_record ⟨.strings _ _, .field o.value.plain_to_json _⟩

/-- An equivalent attribute is written as a plain value. -/
theorem HtmlEquivalent.plain_to_json (e : HtmlEquivalent) : Plain e.toJson := by
  have hvalue : Plain (valueJson e.value) := by
    cases e.value with
    | none => exact .null
    | some value => exact .string value
  exact .of_record ⟨.field (.string _) _, .flag _ _, .field hvalue _⟩

/-- A property is written as a plain value. -/
theorem Property.plain_to_json (p : Property) : Plain p.toJson :=
  .of_record ⟨.field (.string _) _, .field (.string _) _, .flag _ _, .flag _ _,
    .field p.value.plain_to_json _, .list Override.plain_to_json _ _, .strings _ _,
    .optional .string _ _, .list HtmlEquivalent.plain_to_json _ _, .map .string _ _⟩

/-- The vocabulary of one version is written as a plain value. -/
theorem Vocabulary.plain_to_json (v : Vocabulary) : Plain v.toJson :=
  .of_record ⟨.field (.of_list Role.plain_to_json _) _, .field (.of_list Role.plain_to_json _) _,
    .field (.of_list Property.plain_to_json _) _⟩

/-- Both vocabularies are written as a plain value. -/
theorem Vocabularies.plain_to_json (v : Vocabularies) : Plain v.toJson :=
  .of_record ⟨.field v.v12.plain_to_json _, .field v.v11.plain_to_json _⟩

end Aria

/-- Shared definitions are written as a plain value. -/
theorem Definitions.plain_to_json (d : Definitions) : Plain d.toJson :=
  .of_record ⟨.field (.of_map (.of_list AttributeDef.plain_to_json) _) _,
    .field d.aria.plain_to_json _, .field (.of_map .of_strings _) _⟩

/-! ### Documents -/

namespace Document

/-- A document is written as a plain value. -/
theorem plain_to_json (d : Document) : Plain d.toJson :=
  .of_record ⟨.strings _ _, .field d.definitions.plain_to_json _,
    .field (.of_list ElementDef.plain_to_json _) _⟩

/-- The text of a document is read back as the document. -/
theorem of_text?_text (d : Document) : ofText? d.text = some d := by
  rw [ofText?, text, d.plain_to_json.of_text?_pretty, Option.bind_some, of_json?_to_json]

end Document

namespace Repository

/-- The document of a repository has that repository. -/
theorem of_document_document (r : Repository) : ofDocument r.document = .ok r := by
  obtain ⟨reloaded, hreloaded⟩ := exists_of_document_iff.2 r.defect?_document
  have hdocument := document_of_ok hreloaded
  have hindex : reloaded.index = r.index := by
    rw [reloaded.index_eq, r.index_eq, hdocument]
  rw [hreloaded]
  cases reloaded
  cases r
  cases hdocument
  cases hindex
  rfl

/-- The indented text of a repository is read back as its document, whatever characters its strings
and keys contain; what was read is accepted, and its repository is the one that was written. -/
theorem reload_of_text (r : Repository) :
    ∃ d reloaded, Document.ofText? r.document.text = some d ∧ ofDocument d = .ok reloaded ∧
      reloaded.document = r.document ∧ reloaded = r :=
  ⟨r.document, r, r.document.of_text?_text, r.of_document_document, rfl, rfl⟩

end Repository

end MarkupSemantics
