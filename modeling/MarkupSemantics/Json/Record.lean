import MarkupSemantics.Json.Basic
import MarkupSemantics.StringMap

/-!
# JSON values read as records

A record is read from an object by the names of its fields. Members with other names are passed
over; a field that occurs twice is refused. A record may also be read from an array, which gives the
fields in their order and may stop early. A field is required, optional (then it may also be
`null`), or has a default that stands for its absence. A record is written as the list of its
fields, each with a value or left out.
-/

namespace MarkupSemantics.Json

variable {α : Type}

/-- The members that a record is read from, in which no field occurs twice. -/
abbrev Record := List (String × Json)

/-- `occursOnce members name` says at most one of `members` has the key `name`. -/
def occursOnce (members : Record) (name : String) : Bool :=
  (members.filter (·.1 == name)).length ≤ 1

/-- `record? fields json` reads an object or an array as a record with the given field names. -/
def record? (fields : List String) : Json → Option Record
  | object members => if fields.all (occursOnce members) then some members else none
  | array items => if items.length ≤ fields.length then some (fields.zip items) else none
  | _ => none

namespace Record

/-- `r.required name read` reads a field that must be present. -/
def required (r : Record) (name : String) (read : Json → Option α) : Option α :=
  (r.lookup name).bind read

/-- `r.optional name read` reads a field that may be absent or null. -/
def optional (r : Record) (name : String) (read : Json → Option α) : Option (Option α) :=
  match r.lookup name with
  | none => some none
  | some null => some none
  | some value => (read value).map some

/-- `r.default name read value` reads a field whose absence means `value`. -/
def default (r : Record) (name : String) (read : Json → Option α) (value : α) : Option α :=
  match r.lookup name with
  | none => some value
  | some found => read found

/-- `r.list name read` reads a list that is empty when absent. -/
def list (r : Record) (name : String) (read : Json → Option α) : Option (List α) :=
  r.default name (list? read) []

/-- `r.flag name` reads a truth value that is false when absent. -/
def flag (r : Record) (name : String) : Option Bool :=
  r.default name bool? false

end Record

/-- `ofRecord fields` is the object of the fields that have a value, in order. -/
def ofRecord (fields : List (String × Option Json)) : Json :=
  object (fields.filterMap fun (name, value) => value.map fun value => (name, value))

/-- `optionalField name write value` is a field that is left out when it has no value. -/
def optionalField (name : String) (write : α → Json) (value : Option α) : String × Option Json :=
  (name, value.map write)

/-- `field name value` is a field that is always written. -/
def field (name : String) (value : Json) : String × Option Json :=
  (name, some value)

/-- `flagField name value` is a field that is written only when it is true. -/
def flagField (name : String) (value : Bool) : String × Option Json :=
  (name, if value then some (bool true) else none)

/-- `listField name write xs` is a field that is left out when the list is empty. -/
def listField (name : String) (write : α → Json) (xs : List α) : String × Option Json :=
  (name, if xs.isEmpty then none else some (ofList write xs))

/-- `tag? json` reads a tag: a string, or an object whose one member has the tag as its key and no
content. -/
def tag? : Json → Option String
  | string tag => some tag
  | object [(tag, null)] => some tag
  | _ => none

/-- `map? read json` reads an object as a map; of two members with one key the later one wins. -/
def map? (read : Json → Option α) : Json → Option (StringMap α)
  | object members =>
    (members.mapM fun member => (read member.2).map (member.1, ·)).map StringMap.ofList
  | _ => none

/-- `ofMap write m` is the object of the entries of `m`. -/
def ofMap (write : α → Json) (m : StringMap α) : Json :=
  object (m.entries.map fun (key, value) => (key, write value))

/-- `mapField name write m` is a field that is left out when the map is empty. -/
def mapField (name : String) (write : α → Json) (m : StringMap α) : String × Option Json :=
  (name, if m.entries.isEmpty then none else some (ofMap write m))

end MarkupSemantics.Json
