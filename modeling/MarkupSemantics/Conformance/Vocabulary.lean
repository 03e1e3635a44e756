import MarkupSemantics.Conformance.Report
import MarkupSemantics.Repository
import MarkupSemantics.Text.Quoted

/-!
# Checks of the vocabulary

The roles and properties that roles refer to exist, properties with tokens list them, no property
has an unknown type, and the types that depend on roles name roles that exist.
-/

namespace MarkupSemantics.Conformance

open Aria

variable (r : Repository) (version : Version)

/-- `isRole r version name` says `name` is declared as a role. -/
def isRole (name : String) : Bool :=
  (r.role? version name).isSome

/-- `isProperty r version name` says `name` is declared as a property. -/
def isProperty (name : String) : Bool :=
  (r.property? version name).isSome

/-- `relationViolations r version role relation names` lists the `names` that stand in `relation` to
`role` and are no roles. -/
def relationViolations (role : Role) (relation : String) (names : List String) : List String :=
  (names.filter fun name => !isRole r version name).map fun name =>
    role.name ++ ": " ++ relation ++ " role " ++ Text.quoted name ++ " is unknown"

/-- `propertyViolations r version role use names` lists the `names` that `role` uses as properties
and that are none. -/
def propertyViolations (role : Role) (use : String) (names : List String) : List String :=
  (names.filter fun name => !isProperty r version name).map fun name =>
    role.name ++ ": " ++ use ++ " property " ++ name ++ " is undefined"

/-- `roleDefinitionViolations r version role` lists what is wrong with `role`. -/
def roleDefinitionViolations (role : Role) : List String :=
  relationViolations r version role "generalization" role.generalization ++
    relationViolations r version role "required context" role.requiredContextRole ++
    relationViolations r version role "required owned" role.requiredOwnedElements ++
    propertyViolations r version role "owned" (role.ownedProperties.map (·.name)) ++
    propertyViolations r version role "prohibited" role.prohibitedProperties

/-- `takesTokens type` says values of `type` are made of listed tokens. -/
def takesTokens (type : ValueType) : Bool :=
  type == .token || type == .tokenList

/-- `propertyDefinitionViolations r version property` lists what is wrong with `property`. -/
def propertyDefinitionViolations (property : Property) : List String :=
  (if takesTokens property.value && property.tokens.isEmpty then
    [property.name ++ ": token type without enumerated values"] else []) ++
  (if property.value == .other then [property.name ++ ": unknown value type"] else []) ++
  property.overrides.flatMap fun override =>
    (override.roles.filter fun role => !isRole r version role).map fun role =>
      property.name ++ ": conditional value for unknown role " ++ Text.quoted role

/-- `versionResults r version` lists the results of the checks of one version. -/
def versionResults : List Result :=
  let subject := "ARIA " ++ version.number
  let vocabulary := r.aria version
  [.ofViolations "aria" (subject ++ " roles")
      (vocabulary.allRoles.flatMap (roleDefinitionViolations r version)) .failure,
    .ofViolations "aria" (subject ++ " properties")
      (vocabulary.properties.flatMap (propertyDefinitionViolations r version)) .failure]

/-- `vocabularyReport r` is the report on the vocabulary of `r`. -/
def vocabularyReport : Report where
  results := versionResults r .v11 ++ versionResults r .v12

end MarkupSemantics.Conformance
