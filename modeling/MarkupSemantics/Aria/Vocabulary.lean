import MarkupSemantics.Aria.Property
import MarkupSemantics.Aria.Role
import MarkupSemantics.Aria.Version

/-!
# Vocabularies

The roles and properties of one version of WAI-ARIA, and of both versions. The roles of the graphics
module are listed apart and come after the others.
-/

namespace MarkupSemantics.Aria

/-- The roles and properties of one version. -/
structure Vocabulary where
  /-- The core roles. -/
  roles : List Role := []
  /-- The roles of the graphics module. -/
  graphicsRoles : List Role := []
  /-- The states and properties. -/
  properties : List Property := []
  deriving DecidableEq, Inhabited

namespace Vocabulary

/-- `v.allRoles` lists the core roles and then the roles of the graphics module. -/
def allRoles (v : Vocabulary) : List Role :=
  v.roles ++ v.graphicsRoles

/-- `v.role? name` is the role called `name`. -/
def role? (v : Vocabulary) (name : String) : Option Role :=
  findRole? v.allRoles name

/-- `v.property? name` is the property called `name`. -/
def property? (v : Vocabulary) (name : String) : Option Property :=
  v.properties.find? (·.name == name)

/-- `v.toJson` is the record of `v`. -/
def toJson (v : Vocabulary) : Json :=
  .ofRecord [
    Json.field "roles" (.ofList Role.toJson v.roles),
    Json.field "graphicsRoles" (.ofList Role.toJson v.graphicsRoles),
    Json.field "props" (.ofList Property.toJson v.properties)]

/-- `ofJson? json` reads a vocabulary from a record. -/
def ofJson? (json : Json) : Option Vocabulary := do
  let r ← json.record? ["roles", "graphicsRoles", "props"]
  return {
    roles := ← r.list "roles" Role.ofJson?
    graphicsRoles := ← r.list "graphicsRoles" Role.ofJson?
    properties := ← r.list "props" Property.ofJson? }

end Vocabulary

/-- The vocabularies of both versions. -/
structure Vocabularies where
  /-- The vocabulary of version 1.1. -/
  v11 : Vocabulary := {}
  /-- The vocabulary of version 1.2. -/
  v12 : Vocabulary := {}
  deriving DecidableEq, Inhabited

namespace Vocabularies

/-- `v.get version` is the vocabulary of `version`. -/
def get (v : Vocabularies) : Version → Vocabulary
  | .v11 => v.v11
  | .v12 => v.v12

/-- `v.set version vocabulary` replaces the vocabulary of `version`. -/
def set (v : Vocabularies) (version : Version) (vocabulary : Vocabulary) : Vocabularies :=
  match version with
  | .v11 => { v with v11 := vocabulary }
  | .v12 => { v with v12 := vocabulary }

/-- `v.toJson` is the record of `v`, the later version first. -/
def toJson (v : Vocabularies) : Json :=
  .ofRecord [Json.field "1.2" v.v12.toJson, Json.field "1.1" v.v11.toJson]

/-- `ofJson? json` reads both vocabularies from a record. -/
def ofJson? (json : Json) : Option Vocabularies := do
  let r ← json.record? ["1.2", "1.1"]
  return {
    v12 := ← r.required "1.2" Vocabulary.ofJson?
    v11 := ← r.required "1.1" Vocabulary.ofJson? }

end Vocabularies

end MarkupSemantics.Aria
