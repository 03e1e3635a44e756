import MarkupSemantics.Conformance.Report
import MarkupSemantics.Rules.AttributeList
import MarkupSemantics.Text.Quoted

/-!
# Checks of elements

The names of elements and attributes have their shapes, groups and roles that are referred to exist,
and the attribute list of an element names each attribute once. The last point is only a warning,
since a look-up takes the first attribute.
-/

namespace MarkupSemantics.Conformance

/-- `isPlainName cs` says `cs` is an ASCII letter followed by letters, digits and hyphens. -/
def isPlainName : List Char → Bool
  | [] => false
  | c :: cs => c.isAlpha && cs.all fun c => c.isAlphanum || c = '-'

/-- `isElementName name` says `name` has the shape of an element name: a plain name, after a colon
if lower-case letters stand before it. -/
def isElementName (name : String) : Bool :=
  match Text.splitFirst ':' name.toList with
  | none => isPlainName name.toList
  | some (qualifier, localName) =>
    !qualifier.isEmpty && qualifier.all Char.isLower && isPlainName localName

/-- `isAttributeName name` says `name` has the shape of an attribute name. -/
def isAttributeName (name : String) : Bool :=
  match name.toList with
  | [] => false
  | c :: cs => (c.isAlpha || c = '_') && cs.all fun c => c.isAlphanum || "_.:-".toList.contains c

/-- `angled name` is `name` between angle brackets. -/
def angled (name : String) : String :=
  "<" ++ name ++ ">"

/-- `elementNameViolations e` lists the names in the definition `e` without the right shape. -/
def elementNameViolations (e : ElementDef) : List String :=
  (if isElementName e.name then [] else ["element " ++ angled e.name]) ++
    e.attributes.filterMap fun entry =>
      match entry with
      | .single a =>
        if isAttributeName a.name then none
        else some (angled e.name ++ " attribute " ++ Text.quoted a.name)
      | .group _ => none

/-- `groupNameViolations name attributes` lists the names in a group without the right shape. -/
def groupNameViolations (name : String) (attributes : List AttributeDef) : List String :=
  (attributes.filter fun a => !isAttributeName a.name).map fun a =>
    "group " ++ name ++ " attribute " ++ Text.quoted a.name

variable (r : Repository)

/-- `nameViolations r` lists the names of elements and attributes without the right shape. -/
def nameViolations : List String :=
  r.document.elements.flatMap elementNameViolations ++
    r.document.definitions.attributeGroups.entries.flatMap fun (name, attributes) =>
      groupNameViolations name attributes

/-- `groupViolations r` lists the references to groups that do not exist. The reference to the
shared attributes stands for itself. -/
def groupViolations : List String :=
  r.document.elements.flatMap fun e =>
    e.attributes.filterMap fun entry =>
      match entry with
      | .group name =>
        if name = AttributeEntry.globalReference ∨ (r.group? name).isSome then none
        else some (angled e.name ++ " references undefined group " ++ name)
      | .single _ => none

/-- `unknownRoles r roles` lists the `roles` that are not declared in the later vocabulary. -/
def unknownRoles (roles : List String) : List String :=
  roles.filter fun role => (r.role? .v12 role).isNone

/-- `implicitRoles implicit` lists the roles that an element may have on its own. -/
def implicitRoles (implicit : ImplicitRole) : List String :=
  implicit.role.toList ++ implicit.cases.map (·.value)

/-- `listedRoles permission` lists the roles that are permitted by name. -/
def listedRoles : Permission → List String
  | .only roles => roles
  | .any => []
  | .none => []

/-- `permittedRoles permitted` lists the roles that some case permits by name. -/
def permittedRoles (permitted : PermittedRoles) : List String :=
  listedRoles permitted.base ++ permitted.cases.flatMap fun c => listedRoles c.value

/-- `roleViolations r` lists the references of elements to roles that do not exist. -/
def roleViolations : List String :=
  r.document.elements.flatMap fun e =>
    let unknown (kind : String) (roles : List String) :=
      (unknownRoles r roles).map fun role =>
        angled e.name ++ " " ++ kind ++ " role " ++ Text.quoted role ++ " is unknown"
    (e.implicitRole.toList.flatMap fun implicit => unknown "implicit" (implicitRoles implicit)) ++
      e.permittedRoles.toList.flatMap fun permitted =>
        unknown "permitted" (permittedRoles permitted)

/-- `repeats seen names` lists the names that occur before, or among `seen`. -/
def repeats (seen : List String) : List String → List String
  | [] => []
  | name :: names =>
    if seen.contains name then name :: repeats seen names else repeats (name :: seen) names

/-- `resolutionViolations r` lists the attributes that the list of an element names again. -/
def resolutionViolations : List String :=
  r.document.elements.flatMap fun e =>
    match r.attributes? e.name with
    | none => [angled e.name ++ " does not resolve"]
    | some attributes =>
      (repeats [] (attributes.map (·.name))).map fun name =>
        angled e.name ++ " resolves " ++ Text.quoted name ++ " twice"

/-- `elementReport r` is the report on the elements of `r`. -/
def elementReport : Report where
  results := [
    .ofViolations "elements" "names" (nameViolations r) .failure,
    .ofViolations "elements" "group references" (groupViolations r) .failure,
    .ofViolations "elements" "role references" (roleViolations r) .failure,
    .ofViolations "elements" "attribute resolution" (resolutionViolations r) .warning]

end MarkupSemantics.Conformance
