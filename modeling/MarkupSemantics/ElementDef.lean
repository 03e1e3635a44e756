import MarkupSemantics.AttributeDef
import MarkupSemantics.Namespace
import MarkupSemantics.Permission

/-!
# Definitions of elements

What a document says about an element: where it belongs, what it may contain, its attributes in the
order in which they are merged, and its roles. The setters build a definition step by step; setting
the attributes also notes the groups that they refer to.
-/

namespace MarkupSemantics

/-- What an element may contain, in terms of names and categories, and where it must lie. -/
structure ContentModel where
  /-- The names and categories of the permitted children. -/
  contents : List String := []
  /-- A selector that some element around it must match. -/
  descendantOf : Option String := none
  deriving DecidableEq, Repr

namespace ContentModel

/-- `m.toJson` is the record of `m`. -/
def toJson (m : ContentModel) : Json :=
  .ofRecord [
    Json.field "contents" (.ofStrings m.contents),
    Json.optionalField "descendantOf" .string m.descendantOf]

/-- `ofJson? json` reads a content model from a record. -/
def ofJson? (json : Json) : Option ContentModel := do
  let r ← json.record? ["contents", "descendantOf"]
  return {
    contents := ← r.list "contents" Json.string?
    descendantOf := ← r.optional "descendantOf" Json.string? }

end ContentModel

/-- The definition of an element. -/
structure ElementDef where
  /-- The qualified name. -/
  name : String
  /-- The namespace, if it is not the one of plain HTML. -/
  ns : Option Namespace := none
  /-- Where the element is described. -/
  cite : String := ""
  /-- What it is for. -/
  description : Option String := none
  /-- Whether it is experimental. -/
  experimental : Bool := false
  /-- Whether it is obsolete. -/
  obsolete : Bool := false
  /-- Whether it is deprecated. -/
  deprecated : Bool := false
  /-- Whether it is outside the standard. -/
  nonStandard : Bool := false
  /-- The categories of content that it belongs to. -/
  categories : List String := []
  /-- What it may contain. -/
  contentModel : ContentModel := {}
  /-- The groups of attributes that apply to it. -/
  globalAttributes : StringMap Bool := StringMap.empty
  /-- Its attributes, in the order in which they are merged. -/
  attributes : List AttributeEntry := []
  /-- The role that it has on its own. -/
  implicitRole : Option ImplicitRole := none
  /-- The roles that an author may give to it. -/
  permittedRoles : Option PermittedRoles := none
  /-- Whether any property may be added to it as an attribute. -/
  possibleToAddProperties : Bool := false
  deriving DecidableEq

namespace ElementDef

/-- `namespaceOf name` is the namespace that a new definition of `name` gets: only the qualifiers of
SVG and MathML count. -/
def namespaceOf (name : String) : Option Namespace :=
  match Text.splitFirst ':' name.toList with
  | none => none
  | some (qualifier, _) =>
    match String.ofList qualifier with
    | "svg" => some .svg
    | "mml" => some .mathML
    | "math" => some .mathML
    | _ => none

/-- `named name` is the definition of `name` without further parts. -/
def named (name : String) : ElementDef :=
  { name := name, ns := namespaceOf name }

/-- `e.withCite cite` is `e`, described at `cite`. -/
def withCite (e : ElementDef) (cite : String) : ElementDef :=
  { e with cite }

/-- `e.withCategories categories` is `e` in the given categories of content. -/
def withCategories (e : ElementDef) (categories : List String) : ElementDef :=
  { e with categories }

/-- `e.withContents contents` is `e` with the given permitted children. -/
def withContents (e : ElementDef) (contents : List String) : ElementDef :=
  { e with contentModel := { e.contentModel with contents } }

/-- `groupKey group` is the group that a reference stands for. -/
def groupKey (group : String) : String :=
  if group = AttributeEntry.globalReference then AttributeEntry.htmlGlobalGroup else group

/-- `noteGroups groups entries` adds the groups that `entries` refer to. -/
def noteGroups (groups : StringMap Bool) : List AttributeEntry → StringMap Bool
  | [] => groups
  | .group name :: entries => noteGroups (groups.insert (groupKey name) true) entries
  | .single _ :: entries => noteGroups groups entries

/-- `e.withAttributes attributes` is `e` with the given attributes; the groups that they refer to
are added to the groups that apply. -/
def withAttributes (e : ElementDef) (attributes : List AttributeEntry) : ElementDef :=
  { e with attributes, globalAttributes := noteGroups e.globalAttributes attributes }

/-- `e.withImplicitRole role` is `e` with the given role of its own. -/
def withImplicitRole (e : ElementDef) (role : ImplicitRole) : ElementDef :=
  { e with implicitRole := some role }

/-- `e.withPermittedRoles roles` is `e` with the given permitted roles. -/
def withPermittedRoles (e : ElementDef) (roles : PermittedRoles) : ElementDef :=
  { e with permittedRoles := some roles }

/-- `e.markDeprecated` is `e`, deprecated. -/
def markDeprecated (e : ElementDef) : ElementDef :=
  { e with deprecated := true }

/-- `e.refersToGlobals` says the attributes of `e` contain the reference to the shared ones. -/
def refersToGlobals (e : ElementDef) : Bool :=
  e.attributes.contains (.group AttributeEntry.globalReference)

/-- The fields of the record of an element. -/
def fields : List String :=
  ["name", "namespace", "cite", "description", "experimental", "obsolete", "deprecated",
    "nonStandard", "categories", "contentModel", "globalAttrs", "attributes", "implicitRole",
    "permittedRoles", "possibleToAddProperties"]

/-- `e.toJson` is the record of `e`. -/
def toJson (e : ElementDef) : Json :=
  .ofRecord [
    Json.field "name" (.string e.name),
    Json.optionalField "namespace" Namespace.toJson e.ns,
    Json.field "cite" (.string e.cite),
    Json.optionalField "description" .string e.description,
    Json.flagField "experimental" e.experimental,
    Json.flagField "obsolete" e.obsolete,
    Json.flagField "deprecated" e.deprecated,
    Json.flagField "nonStandard" e.nonStandard,
    Json.field "categories" (.ofStrings e.categories),
    Json.field "contentModel" e.contentModel.toJson,
    Json.field "globalAttrs" (.ofMap .bool e.globalAttributes),
    Json.field "attributes" (.ofList AttributeEntry.toJson e.attributes),
    Json.optionalField "implicitRole" ImplicitRole.toJson e.implicitRole,
    Json.optionalField "permittedRoles" PermittedRoles.toJson e.permittedRoles,
    Json.flagField "possibleToAddProperties" e.possibleToAddProperties]

/-- `ofJson? json` reads an element from a record. -/
def ofJson? (json : Json) : Option ElementDef := do
  let r ← json.record? fields
  return {
    name := ← r.required "name" Json.string?
    ns := ← r.optional "namespace" Namespace.ofJson?
    cite := ← r.default "cite" Json.string? ""
    description := ← r.optional "description" Json.string?
    experimental := ← r.flag "experimental"
    obsolete := ← r.flag "obsolete"
    deprecated := ← r.flag "deprecated"
    nonStandard := ← r.flag "nonStandard"
    categories := ← r.list "categories" Json.string?
    contentModel := ← r.default "contentModel" ContentModel.ofJson? {}
    globalAttributes := ← r.default "globalAttrs" (Json.map? Json.bool?) StringMap.empty
    attributes := ← r.list "attributes" AttributeEntry.ofJson?
    implicitRole := ← r.optional "implicitRole" ImplicitRole.ofJson?
    permittedRoles := ← r.optional "permittedRoles" PermittedRoles.ofJson?
    possibleToAddProperties := ← r.flag "possibleToAddProperties" }

end ElementDef

end MarkupSemantics
