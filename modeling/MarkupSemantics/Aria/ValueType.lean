import MarkupSemantics.Json.Record

/-!
# Types of property values

The types that WAI-ARIA gives to the values of its properties. A tag outside the taxonomy stands for
the type `other`.
-/

namespace MarkupSemantics.Aria

/-- The type of the values of a property. -/
inductive ValueType where
  | trueFalse
  | tristate
  | trueFalseUndefined
  | idReference
  | idReferenceList
  | integer
  | number
  | string
  | token
  | tokenList
  | uri
  | other
  deriving DecidableEq, Repr

namespace ValueType

/-- The tags of the taxonomy. -/
def tags : List (String × ValueType) := [
  ("true/false", trueFalse), ("tristate", tristate), ("true/false/undefined", trueFalseUndefined),
  ("ID reference", idReference), ("ID reference list", idReferenceList), ("integer", integer),
  ("number", number), ("string", string), ("token", token), ("token list", tokenList),
  ("URI", uri)]

/-- `ofTag tag` is the type with the given tag. -/
def ofTag (tag : String) : ValueType :=
  (tags.lookup tag).getD other

/-- `t.tag` is the tag of `t`. -/
def tag : ValueType → String
  | trueFalse => "true/false"
  | tristate => "tristate"
  | trueFalseUndefined => "true/false/undefined"
  | idReference => "ID reference"
  | idReferenceList => "ID reference list"
  | integer => "integer"
  | number => "number"
  | string => "string"
  | token => "token"
  | tokenList => "token list"
  | uri => "URI"
  | other => "other"

/-- A type is found under its own tag. -/
@[simp] theorem of_tag_tag (t : ValueType) : ofTag t.tag = t := by
  cases t <;> decide

/-- `t.toJson` is the tag of `t` in a document, where `other` has a capital letter. -/
def toJson : ValueType → Json
  | other => .string "Other"
  | t => .string t.tag

/-- `ofJson? json` reads a type from its tag. -/
def ofJson? (json : Json) : Option ValueType :=
  json.tag?.map ofTag

/-- A type is read back as it is written. -/
@[simp] theorem of_json?_to_json (t : ValueType) : ofJson? t.toJson = some t := by
  cases t <;> decide

end ValueType

end MarkupSemantics.Aria
