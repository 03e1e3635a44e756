import MarkupSemantics.Decimal.Shortest
import MarkupSemantics.Repository
import MarkupSemantics.Text.Blank

/-!
# Values of properties

Which values the types of WAI-ARIA accept. Tokens must be listed; numbers must be written in
canonical form; types without a form of their own accept every value. The type of a property may
depend on the role.
-/

namespace MarkupSemantics

namespace Aria

/-- `ValueType.accepts t tokens value` says the type `t` accepts `value`, where `tokens` are the
listed tokens. -/
def ValueType.accepts (t : ValueType) (tokens : List String) (value : String) : Bool :=
  match t with
  | .token => tokens.contains value
  | .tokenList =>
    (Text.pieces value.toList).all fun piece => tokens.contains (String.ofList (Text.trim piece))
  | .trueFalse => ["true", "false"].contains value
  | .tristate => ["true", "false", "mixed", "undefined"].contains value
  | .trueFalseUndefined => ["true", "false", "undefined"].contains value
  | .integer => Decimal.isCanonicalInteger value.toList
  | .number => Decimal.isCanonicalNumber value.toList
  | .idReference => true
  | .idReferenceList => true
  | .string => true
  | .uri => true
  | .other => true

/-- `p.valueFor role` is the type of the values of `p` on the role, which may be missing. -/
def Property.valueFor (p : Property) (role : Option String) : ValueType :=
  match role.bind fun role => p.overrides.find? (·.roles.contains role) with
  | some override => override.value
  | none => p.value

/-- What is known of the value of an attribute. -/
structure ValueCheck where
  /-- The property, if there is one. -/
  property : Option Property
  /-- The type that the value is checked against. -/
  type : Option ValueType
  /-- The value. -/
  value : String
  /-- The type accepts the value. -/
  isValid : Bool

end Aria

/-- `r.checkValue version name value role` checks the value of the attribute `name` on an element
with the given role. An attribute that is no property accepts every value. -/
def Repository.checkValue (r : Repository) (version : Aria.Version) (name value : String)
    (role : Option String) : Aria.ValueCheck :=
  match r.property? version name with
  | none => ⟨none, none, value, true⟩
  | some property =>
    let type := property.valueFor role
    ⟨some property, some type, value, type.accepts property.tokens value⟩

end MarkupSemantics
