import MarkupSemantics.Json.Record

/-!
# One string or several

A string or a list of alternatives, written in JSON as a string or as an array of strings.
-/

namespace MarkupSemantics

/-- A string or a list of strings. -/
inductive OneOrMany where
  | one (value : String)
  | many (values : List String)
  deriving DecidableEq, Repr

namespace OneOrMany

/-- `x.toList` is the list of the strings of `x`. -/
def toList : OneOrMany → List String
  | one value => [value]
  | many values => values

/-- `x.joined` is the strings of `x` with commas between them. -/
def joined (x : OneOrMany) : String :=
  ",".intercalate x.toList

/-- `x.toJson` is the string or the array of strings. -/
def toJson : OneOrMany → Json
  | one value => .string value
  | many values => .ofStrings values

/-- `ofJson? json` reads a string or an array of strings. -/
def ofJson? : Json → Option OneOrMany
  | .string value => some (one value)
  | json => json.strings?.map many

/-- One text or several are read back as they are written. -/
@[simp] theorem of_json?_to_json (x : OneOrMany) : ofJson? x.toJson = some x := by
  cases x <;> simp [ofJson?, toJson, Json.ofStrings, Json.ofList]
  exact Json.strings?_of_strings _

end OneOrMany

end MarkupSemantics
