import MarkupSemantics.Json.Record

/-!
# Roles

What a document says about a role of WAI-ARIA: the roles it specializes, the properties it has, and
how it is named.
-/

namespace MarkupSemantics.Aria

/-- A property that a role has. -/
structure OwnedProperty where
  /-- The name of the property. -/
  name : String
  /-- It comes from a role that this one specializes. -/
  inherited : Bool := false
  /-- It must be given. -/
  required : Bool := false
  /-- It is deprecated on this role. -/
  deprecated : Bool := false
  deriving DecidableEq, Repr

namespace OwnedProperty

/-- `p.toJson` is the record of `p`. -/
def toJson (p : OwnedProperty) : Json :=
  .ofRecord [
    Json.field "name" (.string p.name),
    Json.flagField "inherited" p.inherited,
    Json.flagField "required" p.required,
    Json.flagField "deprecated" p.deprecated]

/-- `ofJson? json` reads an owned property from a record. -/
def ofJson? (json : Json) : Option OwnedProperty := do
  let r ← json.record? ["name", "inherited", "required", "deprecated"]
  return {
    name := ← r.required "name" Json.string?
    inherited := ← r.flag "inherited"
    required := ← r.flag "required"
    deprecated := ← r.flag "deprecated" }

end OwnedProperty

/-- A role. -/
structure Role where
  /-- The name of the role. -/
  name : String
  /-- What it is for. -/
  description : Option String := none
  /-- It exists only to be specialized. -/
  isAbstract : Bool := false
  /-- The roles that it specializes. -/
  generalization : List String := []
  /-- The roles of which one must contain it. -/
  requiredContextRole : List String := []
  /-- The roles that it must contain. -/
  requiredOwnedElements : List String := []
  /-- It must have a name. -/
  accessibleNameRequired : Bool := false
  /-- Its name may be given by the author. -/
  accessibleNameFromAuthor : Bool := false
  /-- Its name may be taken from its content. -/
  accessibleNameFromContent : Bool := false
  /-- It must not have a name. -/
  accessibleNameProhibited : Bool := false
  /-- Its children carry no meaning. -/
  childrenPresentational : Bool := false
  /-- The properties that it has. -/
  ownedProperties : List OwnedProperty := []
  /-- The properties that it must not have. -/
  prohibitedProperties : List String := []
  deriving DecidableEq, Repr

namespace Role

/-- The fields of the record of a role. -/
def fields : List String :=
  ["name", "description", "isAbstract", "generalization", "requiredContextRole",
    "requiredOwnedElements", "accessibleNameRequired", "accessibleNameFromAuthor",
    "accessibleNameFromContent", "accessibleNameProhibited", "childrenPresentational",
    "ownedProperties", "prohibitedProperties"]

/-- `r.toJson` is the record of `r`. -/
def toJson (r : Role) : Json :=
  .ofRecord [
    Json.field "name" (.string r.name),
    Json.optionalField "description" .string r.description,
    Json.field "isAbstract" (.bool r.isAbstract),
    Json.field "generalization" (.ofStrings r.generalization),
    Json.field "requiredContextRole" (.ofStrings r.requiredContextRole),
    Json.field "requiredOwnedElements" (.ofStrings r.requiredOwnedElements),
    Json.field "accessibleNameRequired" (.bool r.accessibleNameRequired),
    Json.field "accessibleNameFromAuthor" (.bool r.accessibleNameFromAuthor),
    Json.field "accessibleNameFromContent" (.bool r.accessibleNameFromContent),
    Json.field "accessibleNameProhibited" (.bool r.accessibleNameProhibited),
    Json.field "childrenPresentational" (.bool r.childrenPresentational),
    Json.field "ownedProperties" (.ofList OwnedProperty.toJson r.ownedProperties),
    Json.field "prohibitedProperties" (.ofStrings r.prohibitedProperties)]

/-- `ofJson? json` reads a role from a record. -/
def ofJson? (json : Json) : Option Role := do
  let r ← json.record? fields
  return {
    name := ← r.required "name" Json.string?
    description := ← r.optional "description" Json.string?
    isAbstract := ← r.flag "isAbstract"
    generalization := ← r.list "generalization" Json.string?
    requiredContextRole := ← r.list "requiredContextRole" Json.string?
    requiredOwnedElements := ← r.list "requiredOwnedElements" Json.string?
    accessibleNameRequired := ← r.flag "accessibleNameRequired"
    accessibleNameFromAuthor := ← r.flag "accessibleNameFromAuthor"
    accessibleNameFromContent := ← r.flag "accessibleNameFromContent"
    accessibleNameProhibited := ← r.flag "accessibleNameProhibited"
    childrenPresentational := ← r.flag "childrenPresentational"
    ownedProperties := ← r.list "ownedProperties" OwnedProperty.ofJson?
    prohibitedProperties := ← r.list "prohibitedProperties" Json.string? }

end Role

/-- `findRole? roles name` is the first of `roles` called `name`. -/
def findRole? (roles : List Role) (name : String) : Option Role :=
  roles.find? (·.name == name)

/-- A role that is found has the name it is looked up by. -/
theorem name_of_find_role? {roles : List Role} {name : String} {role : Role}
    (h : findRole? roles name = some role) : role.name = name := by
  simpa using List.find?_some h

end MarkupSemantics.Aria
