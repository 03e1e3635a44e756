import MarkupSemantics.Json.Record

/-!
# Versions of the accessibility vocabulary

The two versions of WAI-ARIA that are described, of which the later one is used by default.
-/

namespace MarkupSemantics.Aria

/-- A version of WAI-ARIA. -/
inductive Version where
  | v11
  | v12
  deriving DecidableEq, Repr

namespace Version

instance : Inhabited Version :=
  ⟨v12⟩

/-- `v.number` is the number of the version `v`. -/
def number : Version → String
  | v11 => "1.1"
  | v12 => "1.2"

/-- `ofNumber? number` is the version with the given number. -/
def ofNumber? : String → Option Version
  | "1.1" => some v11
  | "1.2" => some v12
  | _ => none

/-- `v.toJson` is the number of `v`. -/
def toJson (v : Version) : Json :=
  .string v.number

/-- `ofJson? json` reads the number of a version. -/
def ofJson? (json : Json) : Option Version :=
  json.tag?.bind ofNumber?

/-- A version is read back as it is written. -/
@[simp] theorem of_json?_to_json (v : Version) : ofJson? v.toJson = some v := by
  cases v <;> rfl

end Version

end MarkupSemantics.Aria
