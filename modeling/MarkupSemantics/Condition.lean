import MarkupSemantics.OneOrMany

/-!
# Conditions

A condition restricts an attribute to elements that match a selector or lie inside an element that
matches one. A `Case` is a value that applies where a selector matches.
-/

namespace MarkupSemantics

/-- A condition on an element and on the elements around it. -/
structure Condition where
  /-- Selectors of which the element must match one. -/
  own : Option OneOrMany
  /-- A selector that an element around it must match. -/
  ancestor : Option String
  deriving DecidableEq, Repr

namespace Condition

/-- `matching selector` asks the element to match `selector`. -/
def matching (selector : String) : Condition :=
  ⟨some (.one selector), none⟩

/-- `matchingAny selectors` asks the element to match one of `selectors`. -/
def matchingAny (selectors : List String) : Condition :=
  ⟨some (.many selectors), none⟩

/-- `inside selector` asks an element around the element to match `selector`. -/
def inside (selector : String) : Condition :=
  ⟨none, some selector⟩

/-- `c.toJson` is the record of `c`. -/
def toJson (c : Condition) : Json :=
  .ofRecord [
    Json.optionalField "self" OneOrMany.toJson c.own,
    Json.optionalField "ancestor" .string c.ancestor]

/-- `ofJson? json` reads a condition from a record. -/
def ofJson? (json : Json) : Option Condition := do
  let r ← json.record? ["self", "ancestor"]
  return {
    own := ← r.optional "self" OneOrMany.ofJson?
    ancestor := ← r.optional "ancestor" Json.string? }

end Condition

/-- A value that applies to elements that match a selector. -/
structure Case (α : Type) where
  /-- The selector that the element must match. -/
  condition : String
  /-- What applies then. -/
  value : α
  deriving DecidableEq, Repr

namespace Case

variable {α : Type}

/-- `c.toJson field write` is the record of `c`, with its value in the given field. -/
def toJson (field : String) (write : α → Json) (c : Case α) : Json :=
  .ofRecord [Json.field "condition" (.string c.condition), Json.field field (write c.value)]

/-- `ofJson? field read json` reads a case whose value is in the given field. -/
def ofJson? (field : String) (read : Json → Option α) (json : Json) : Option (Case α) := do
  let r ← json.record? ["condition", field]
  return {
    condition := ← r.required "condition" Json.string?
    value := ← r.required field read }

end Case

end MarkupSemantics
