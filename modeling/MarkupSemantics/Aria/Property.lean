import MarkupSemantics.Aria.ValueType
import MarkupSemantics.Json.Record

/-!
# Properties and states

What a document says about an `aria-*` attribute: the type of its values, which may depend on the
role, and the HTML attributes that mean the same.
-/

namespace MarkupSemantics.Aria

/-- Whether an attribute is a property or a state. -/
inductive PropertyKind where
  | property
  | state
  deriving DecidableEq, Repr

namespace PropertyKind

/-- `k.tag` is the name of `k`. -/
def tag : PropertyKind → String
  | property => "property"
  | state => "state"

/-- `ofTag? tag` is the kind with the given name. -/
def ofTag? : String → Option PropertyKind
  | "property" => some property
  | "state" => some state
  | _ => none

/-- `k.toJson` is the name of `k`. -/
def toJson (k : PropertyKind) : Json :=
  .string k.tag

/-- `ofJson? json` reads a kind from its name. -/
def ofJson? (json : Json) : Option PropertyKind :=
  json.tag?.bind ofTag?

/-- The kind of a property is read back as it is written. -/
@[simp] theorem of_json?_to_json (k : PropertyKind) : ofJson? k.toJson = some k := by
  cases k <;> rfl

end PropertyKind

/-- Another type of values for some roles. -/
structure Override where
  /-- The roles that it applies to. -/
  roles : List String
  /-- The type of values on these roles. -/
  value : ValueType
  deriving DecidableEq, Repr

namespace Override

/-- `o.toJson` is the record of `o`. -/
def toJson (o : Override) : Json :=
  .ofRecord [Json.field "role" (.ofStrings o.roles), Json.field "value" o.value.toJson]

/-- `ofJson? json` reads an override from a record. -/
def ofJson? (json : Json) : Option Override := do
  let r ← json.record? ["role", "value"]
  return {
    roles := ← r.required "role" Json.strings?
    value := ← r.required "value" ValueType.ofJson? }

end Override

/-- An HTML attribute that means the same as a property. -/
structure HtmlEquivalent where
  /-- The name of the HTML attribute. -/
  attributeName : String
  /-- The two differ in some cases. -/
  isNotStrict : Bool := false
  /-- The value of the property that the HTML attribute stands for, if it is not any value. -/
  value : Option String := none
  deriving DecidableEq, Repr

namespace HtmlEquivalent

/-- `valueJson value` is the value, or null. -/
def valueJson : Option String → Json
  | some value => .string value
  | none => .null

/-- `e.toJson` is the record of `e`. -/
def toJson (e : HtmlEquivalent) : Json :=
  .ofRecord [
    Json.field "htmlAttrName" (.string e.attributeName),
    Json.flagField "isNotStrictEquivalent" e.isNotStrict,
    Json.field "value" (valueJson e.value)]

/-- `ofJson? json` reads an equivalent attribute from a record. -/
def ofJson? (json : Json) : Option HtmlEquivalent := do
  let r ← json.record? ["htmlAttrName", "isNotStrictEquivalent", "value"]
  return {
    attributeName := ← r.required "htmlAttrName" Json.string?
    isNotStrict := ← r.flag "isNotStrictEquivalent"
    value := ← r.optional "value" Json.string? }

end HtmlEquivalent

/-- A property or state. -/
structure Property where
  /-- The name of the attribute. -/
  name : String
  /-- Whether it is a property or a state. -/
  kind : PropertyKind
  /-- It is deprecated. -/
  deprecated : Bool := false
  /-- It applies to every role. -/
  isGlobal : Bool := false
  /-- The type of its values. -/
  value : ValueType
  /-- Other types for some roles, the first one first. -/
  overrides : List Override := []
  /-- The permitted tokens. -/
  tokens : List String := []
  /-- The value that it has when it is absent. -/
  defaultValue : Option String := none
  /-- The HTML attributes that mean the same. -/
  equivalents : List HtmlEquivalent := []
  /-- What the tokens mean. -/
  valueDescriptions : StringMap String := StringMap.empty
  deriving DecidableEq

namespace Property

/-- The fields of the record of a property. -/
def fields : List String :=
  ["name", "type", "deprecated", "isGlobal", "value", "conditionalValue", "enum", "defaultValue",
    "equivalentHtmlAttrs", "valueDescriptions"]

/-- `p.toJson` is the record of `p`. -/
def toJson (p : Property) : Json :=
  .ofRecord [
    Json.field "name" (.string p.name),
    Json.field "type" p.kind.toJson,
    Json.flagField "deprecated" p.deprecated,
    Json.flagField "isGlobal" p.isGlobal,
    Json.field "value" p.value.toJson,
    Json.listField "conditionalValue" Override.toJson p.overrides,
    Json.field "enum" (.ofStrings p.tokens),
    Json.optionalField "defaultValue" .string p.defaultValue,
    Json.listField "equivalentHtmlAttrs" HtmlEquivalent.toJson p.equivalents,
    Json.mapField "valueDescriptions" .string p.valueDescriptions]

/-- `ofJson? json` reads a property from a record. -/
def ofJson? (json : Json) : Option Property := do
  let r ← json.record? fields
  return {
    name := ← r.required "name" Json.string?
    kind := ← r.required "type" PropertyKind.ofJson?
    deprecated := ← r.flag "deprecated"
    isGlobal := ← r.flag "isGlobal"
    value := ← r.required "value" ValueType.ofJson?
    overrides := ← r.list "conditionalValue" Override.ofJson?
    tokens := ← r.list "enum" Json.string?
    defaultValue := ← r.optional "defaultValue" Json.string?
    equivalents := ← r.list "equivalentHtmlAttrs" HtmlEquivalent.ofJson?
    valueDescriptions := ← r.default "valueDescriptions" (Json.map? Json.string?) StringMap.empty }

end Property

end MarkupSemantics.Aria
