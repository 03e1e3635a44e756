import MarkupSemantics.Condition

/-!
# Definitions of attributes

What a document says about an attribute. Every part but the name may be missing, so that a later
definition can refine an earlier one: `AttributeDef.refine` keeps the parts that the later one
leaves out.
-/

namespace MarkupSemantics

/-- The definition of an attribute. -/
structure AttributeDef where
  /-- The name of the attribute. -/
  name : String
  /-- The types of values it takes. -/
  type : Option OneOrMany := none
  /-- What it is for. -/
  description : Option String := none
  /-- Where it may be used. -/
  condition : Option Condition := none
  /-- Whether the case of its value matters. -/
  caseSensitive : Option Bool := none
  /-- Whether it is experimental. -/
  experimental : Option Bool := none
  /-- Whether it is obsolete. -/
  obsolete : Option Bool := none
  /-- Whether it is deprecated. -/
  deprecated : Option Bool := none
  /-- Whether it is outside the standard. -/
  nonStandard : Option Bool := none
  deriving DecidableEq, Repr

namespace AttributeDef

/-- `a.typed type` is `a` with values of the given type. -/
def typed (a : AttributeDef) (type : OneOrMany) : AttributeDef :=
  { a with type := some type }

/-- `a.when condition` is `a` restricted by `condition`. -/
def when (a : AttributeDef) (condition : Condition) : AttributeDef :=
  { a with condition := some condition }

/-- `a.markDeprecated` is `a`, deprecated. -/
def markDeprecated (a : AttributeDef) : AttributeDef :=
  { a with deprecated := some true }

/-- `a.markObsolete` is `a`, obsolete. -/
def markObsolete (a : AttributeDef) : AttributeDef :=
  { a with obsolete := some true }

/-- `a.markExperimental` is `a`, experimental. -/
def markExperimental (a : AttributeDef) : AttributeDef :=
  { a with experimental := some true }

/-- `a.markNonStandard` is `a`, outside the standard. -/
def markNonStandard (a : AttributeDef) : AttributeDef :=
  { a with nonStandard := some true }

/-- `a.markCaseSensitive` is `a` with values whose case matters. -/
def markCaseSensitive (a : AttributeDef) : AttributeDef :=
  { a with caseSensitive := some true }

/-- `a.refine later` is `a` with every part that `later` gives, under the name of `a`. -/
def refine (a later : AttributeDef) : AttributeDef where
  name := a.name
  type := later.type <|> a.type
  description := later.description <|> a.description
  condition := later.condition <|> a.condition
  caseSensitive := later.caseSensitive <|> a.caseSensitive
  experimental := later.experimental <|> a.experimental
  obsolete := later.obsolete <|> a.obsolete
  deprecated := later.deprecated <|> a.deprecated
  nonStandard := later.nonStandard <|> a.nonStandard

/-- `a.types` lists the types of values that `a` takes. -/
def types (a : AttributeDef) : List String :=
  match a.type with
  | some type => type.toList
  | none => []

/-- `a.isDeprecated` says `a` is marked as deprecated. -/
def isDeprecated (a : AttributeDef) : Bool :=
  a.deprecated.getD false

/-- `a.isObsolete` says `a` is marked as obsolete. -/
def isObsolete (a : AttributeDef) : Bool :=
  a.obsolete.getD false

/-- The fields of the record of an attribute. -/
def fields : List String :=
  ["name", "type", "description", "condition", "caseSensitive", "experimental", "obsolete",
    "deprecated", "nonStandard"]

/-- `a.toJson` is the record of `a`. -/
def toJson (a : AttributeDef) : Json :=
  .ofRecord [
    Json.field "name" (.string a.name),
    Json.optionalField "type" OneOrMany.toJson a.type,
    Json.optionalField "description" .string a.description,
    Json.optionalField "condition" Condition.toJson a.condition,
    Json.optionalField "caseSensitive" .bool a.caseSensitive,
    Json.optionalField "experimental" .bool a.experimental,
    Json.optionalField "obsolete" .bool a.obsolete,
    Json.optionalField "deprecated" .bool a.deprecated,
    Json.optionalField "nonStandard" .bool a.nonStandard]

/-- `ofJson? json` reads an attribute from a record. -/
def ofJson? (json : Json) : Option AttributeDef := do
  let r ← json.record? fields
  return {
    name := ← r.required "name" Json.string?
    type := ← r.optional "type" OneOrMany.ofJson?
    description := ← r.optional "description" Json.string?
    condition := ← r.optional "condition" Condition.ofJson?
    caseSensitive := ← r.optional "caseSensitive" Json.bool?
    experimental := ← r.optional "experimental" Json.bool?
    obsolete := ← r.optional "obsolete" Json.bool?
    deprecated := ← r.optional "deprecated" Json.bool?
    nonStandard := ← r.optional "nonStandard" Json.bool? }

end AttributeDef

/-- An entry in the attribute list of an element: a group that stands for its attributes, or an
attribute. -/
inductive AttributeEntry where
  | group (name : String)
  | single (definition : AttributeDef)
  deriving DecidableEq, Repr

namespace AttributeEntry

/-- The reference to the attributes that all HTML elements share. -/
def globalReference : String :=
  "#globalAttrs"

/-- The group of the attributes that all HTML elements share. -/
def htmlGlobalGroup : String :=
  "#HTMLGlobalAttrs"

/-- The group of the attributes that are added to every element. -/
def extensionGroup : String :=
  "#extends"

/-- `e.toJson` is the name of the group or the record of the attribute. -/
def toJson : AttributeEntry → Json
  | group name => .string name
  | single definition => definition.toJson

/-- `ofJson? json` reads the name of a group or an attribute, whose record must have a value
throughout. -/
def ofJson? : Json → Option AttributeEntry
  | .string name => some (group name)
  | json => if json.readable then (AttributeDef.ofJson? json).map single else none

end AttributeEntry

end MarkupSemantics
