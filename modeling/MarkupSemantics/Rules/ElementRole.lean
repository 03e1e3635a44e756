import MarkupSemantics.Repository
import MarkupSemantics.Rules.Applicability
import MarkupSemantics.Text.Blank
import MarkupSemantics.Text.Casing

/-!
# The role of an element

The role that an element has without asking for one, the role that it asks for in its `role`
attribute, and the roles that it may ask for. `Repository.verifiedRole` says what is wrong with a
role that an element asks for.
-/

namespace MarkupSemantics

/-- The role that an element ends up with. -/
structure ComputedRole where
  /-- The name of the role, empty where the attribute is blank. -/
  name : String
  /-- The role is not asked for by an attribute. -/
  isImplicit : Bool
  deriving DecidableEq, Repr

/-- What is wrong with the role that an element asks for. -/
inductive RoleProblem where
  /-- There is no such role. -/
  | unknown (role : String)
  /-- The role is abstract. -/
  | abstractRole (role : String)
  /-- The element may not have the role. -/
  | notPermitted (role element : String)
  deriving DecidableEq, Repr

namespace RoleProblem

/-- `p.message` describes the problem `p`. -/
def message : RoleProblem → String
  | unknown role => "the \"" ++ role ++ "\" role does not exist"
  | abstractRole role => "the \"" ++ role ++ "\" role is abstract"
  | notPermitted role element =>
    "the \"" ++ role ++ "\" role is not permitted on <" ++ element ++ ">"

end RoleProblem

/-- `Permission.including implicit p` is `p` with the role that the element has anyway, which is
ignored when it is empty. -/
def Permission.including (implicit : Option String) (p : Permission) : Permission :=
  match implicit.filter (· != "") with
  | .some role => p.allowing role
  | .none => p

/-- `requestedRole value` is the role that a `role` attribute asks for: its first word in lower
case. -/
def requestedRole (value : String) : String :=
  String.ofList (Text.firstWord (Text.lowercase (Text.trim value.toList)))

/-- `implicit.select? e` is the role of the first case that applies to `e`, or the one
without a condition; an empty name stands for no role. -/
def ImplicitRole.select? {ε : Type} [MarkupElement ε] (implicit : ImplicitRole) (e : ε) :
    Option String :=
  ((Case.select implicit.cases e).or implicit.role).filter (· != "")

namespace Repository

variable {ε : Type} [MarkupElement ε]

/-- `r.definition? e` is the definition of the element `e`. -/
def definition? (r : Repository) (e : ε) : Option ElementDef :=
  r.element? (MarkupElement.name e)

/-- `r.implicitRole? e` is the role that `e` has without asking for one. -/
def implicitRole? (r : Repository) (e : ε) : Option String := do
  let definition ← r.definition? e
  let implicit ← definition.implicitRole
  implicit.select? e

/-- `r.computedRole? e` is the role that `e` asks for, or else the one that it has anyway. -/
def computedRole? (r : Repository) (e : ε) : Option ComputedRole :=
  match MarkupElement.attribute? e "role" with
  | some value => some ⟨requestedRole value, false⟩
  | none => (r.implicitRole? e).map (⟨·, true⟩)

/-- `r.permission e` is what `e` may ask for: what the first applicable case permits, or the base
permission, and the role that `e` has anyway. Everything is permitted where nothing is said. -/
def permission (r : Repository) (e : ε) : Permission :=
  match (r.definition? e).bind (·.permittedRoles) with
  | none => .any
  | some permitted =>
    ((Case.select permitted.cases e).getD permitted.base).including (r.implicitRole? e)

/-- `r.verifiedRole version e` is the role of `e`, or what is wrong with the role it asks for. -/
def verifiedRole (r : Repository) (version : Aria.Version) (e : ε) :
    Except RoleProblem (Option ComputedRole) :=
  match r.computedRole? e with
  | none => .ok none
  | some computed =>
    if computed.isImplicit then .ok (some computed)
    else
      match r.role? version computed.name with
      | none => .error (.unknown computed.name)
      | some role =>
        if role.isAbstract then .error (.abstractRole computed.name)
        else if (r.permission e).permits computed.name then .ok (some computed)
        else .error (.notPermitted computed.name (MarkupElement.name e))

end Repository

end MarkupSemantics
