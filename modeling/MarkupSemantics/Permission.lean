import MarkupSemantics.Condition

/-!
# Roles of an element

The role that an element has without asking for one, and the roles that it may ask for. Both may
depend on selectors, of which the first that matches decides.
-/

namespace MarkupSemantics

/-- The role that an element has on its own. -/
structure ImplicitRole where
  /-- The role where no case applies. -/
  role : Option String := none
  /-- The roles where a selector matches, the first one first. -/
  cases : List (Case String) := []
  deriving DecidableEq, Repr

namespace ImplicitRole

/-- `of role` is always `role`. -/
def of (role : String) : ImplicitRole :=
  { role := some role }

/-- `r.when condition role` is `r` with one more case. -/
def when (r : ImplicitRole) (condition role : String) : ImplicitRole :=
  { r with cases := r.cases ++ [⟨condition, role⟩] }

/-- `roleJson role` is the name of the role, or false. -/
def roleJson : Option String → Json
  | some role => .string role
  | none => .bool false

/-- `role? json` reads the name of a role; a truth value or null means that there is none. -/
def role? : Json → Option (Option String)
  | .string role => some (some role)
  | .bool _ => some none
  | .null => some none
  | _ => none

/-- `r.toJson` is the record of `r`. -/
def toJson (r : ImplicitRole) : Json :=
  .ofRecord [
    Json.field "role" (roleJson r.role),
    Json.listField "conditions" (Case.toJson "role" .string) r.cases]

/-- `ofJson? json` reads an implicit role from a record. -/
def ofJson? (json : Json) : Option ImplicitRole := do
  let r ← json.record? ["role", "conditions"]
  return {
    role := ← r.default "role" role? none
    cases := ← r.list "conditions" (Case.ofJson? "role" Json.string?) }

end ImplicitRole

/-- The roles that an author may give to an element. -/
inductive Permission where
  /-- Every role is permitted. -/
  | any
  /-- The listed roles are permitted. -/
  | only (roles : List String)
  /-- No role is permitted. -/
  | none
  deriving DecidableEq, Repr

namespace Permission

/-- `p.permits role` says `p` permits `role`. -/
def permits : Permission → String → Bool
  | any, _ => true
  | only roles, role => roles.contains role
  | none, _ => false

/-- `p.allowing role` is `p` with `role` permitted. -/
def allowing (p : Permission) (role : String) : Permission :=
  match p with
  | any => any
  | only roles => only (role :: roles)
  | none => only [role]

/-- `p.toJson` is a truth value or the list of the permitted roles. -/
def toJson : Permission → Json
  | any => .bool true
  | only roles => .ofStrings roles
  | none => .bool false

/-- `ofJson? json` reads a permission from a truth value or a list. -/
def ofJson? : Json → Option Permission
  | .bool true => some any
  | .bool false => some none
  | json => json.strings?.map only

/-- A permission is read back as it is written. -/
@[simp] theorem of_json?_to_json (p : Permission) : ofJson? p.toJson = some p := by
  cases p with
  | any => rfl
  | only roles =>
    simp only [toJson, Json.ofStrings, Json.ofList, ofJson?]
    rw [show Json.strings? (Json.array (roles.map .string)) = some roles from
      Json.strings?_of_strings roles]
    rfl
  | none => rfl

end Permission

/-- The roles that an author may give to an element, depending on selectors. -/
structure PermittedRoles where
  /-- What is permitted where no case applies. -/
  base : Permission
  /-- What is permitted where a selector matches, the first one first. -/
  cases : List (Case Permission) := []
  deriving DecidableEq, Repr

namespace PermittedRoles

/-- `p.when condition permission` is `p` with one more case. -/
def when (p : PermittedRoles) (condition : String) (permission : Permission) : PermittedRoles :=
  { p with cases := p.cases ++ [⟨condition, permission⟩] }

/-- `p.toJson` is the record of `p`. -/
def toJson (p : PermittedRoles) : Json :=
  .ofRecord [
    Json.field "roles" p.base.toJson,
    Json.listField "conditions" (Case.toJson "roles" Permission.toJson) p.cases]

/-- `ofJson? json` reads permitted roles from a record. -/
def ofJson? (json : Json) : Option PermittedRoles := do
  let r ← json.record? ["roles", "conditions"]
  return {
    base := ← r.required "roles" Permission.ofJson?
    cases := ← r.list "conditions" (Case.ofJson? "roles" Permission.ofJson?) }

end PermittedRoles

end MarkupSemantics
