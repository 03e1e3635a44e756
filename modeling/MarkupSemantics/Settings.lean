import MarkupSemantics.Aria.Version

/-!
# Settings

What can be chosen for all queries: the version of the accessibility vocabulary.
-/

namespace MarkupSemantics

/-- The settings of queries. -/
structure Settings where
  /-- The version in which roles and properties are looked up. -/
  ariaVersion : Aria.Version := .v12
  deriving DecidableEq, Repr, Inhabited

namespace Settings

/-- `s.toJson` is the record of `s`. -/
def toJson (s : Settings) : Json :=
  .ofRecord [Json.field "ariaVersion" s.ariaVersion.toJson]

/-- `ofJson? json` reads settings from a record. -/
def ofJson? (json : Json) : Option Settings := do
  let r ← json.record? ["ariaVersion"]
  return { ariaVersion := ← r.default "ariaVersion" Aria.Version.ofJson? default }

end Settings

end MarkupSemantics
