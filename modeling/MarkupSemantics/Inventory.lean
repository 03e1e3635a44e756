import MarkupSemantics.Repository

/-!
# Inventories

How much a repository holds, and a summary of it as lines of text: the counts, a line for each
element, and the start of the document's JSON text.
-/

namespace MarkupSemantics

/-- The numbers of the parts of a vocabulary. -/
structure VocabularyCounts where
  /-- The number of core roles. -/
  roles : Nat
  /-- The number of roles of the graphics module. -/
  graphicsRoles : Nat
  /-- The number of states and properties. -/
  properties : Nat
  deriving DecidableEq, Repr

/-- The numbers of the parts of a document. -/
structure Inventory where
  /-- The number of elements. -/
  elements : Nat
  /-- The number of groups of attributes. -/
  attributeGroups : Nat
  /-- The number of categories of content. -/
  contentModels : Nat
  /-- The numbers of the parts of each vocabulary. -/
  aria : Aria.Version → VocabularyCounts

namespace Repository

/-- `r.inventory` counts the parts of the document of `r`. -/
def inventory (r : Repository) : Inventory where
  elements := r.document.elements.length
  attributeGroups := r.document.definitions.attributeGroups.size
  contentModels := r.document.definitions.contentModels.size
  aria version :=
    let vocabulary := r.aria version
    ⟨vocabulary.roles.length, vocabulary.graphicsRoles.length, vocabulary.properties.length⟩

end Repository

namespace Summary

/-- `padRight width text` adds spaces after `text` up to `width` characters. -/
def padRight (width : Nat) (text : String) : String :=
  text ++ String.ofList (List.replicate (width - text.length) ' ')

/-- `padLeft width text` adds spaces before `text` up to `width` characters. -/
def padLeft (width : Nat) (text : String) : String :=
  String.ofList (List.replicate (width - text.length) ' ') ++ text

/-- `vocabularyLine inventory version` is the line about the vocabulary of `version`. -/
def vocabularyLine (inventory : Inventory) (version : Aria.Version) : String :=
  let counts := inventory.aria version
  "  ARIA " ++ version.number ++ ":          " ++ toString counts.roles ++ " roles, " ++
    toString counts.graphicsRoles ++ " graphics roles, " ++ toString counts.properties ++
    " states/properties"

/-- `elementLine e` is the line about the element `e`. -/
def elementLine (e : ElementDef) : String :=
  let implicit := (e.implicitRole.bind (·.role)).getD "-"
  "  " ++ padRight 14 e.name ++ " " ++ padLeft 2 (toString e.attributes.length) ++
    " attribute entries  implicit role: " ++ implicit

/-- The number of characters of the JSON text that a summary shows. -/
def previewLength : Nat :=
  200

/-- `text r` is the summary of `r`. -/
def text (r : Repository) : String :=
  let inventory := r.inventory
  let written := r.document.text
  let preview := String.ofList (written.toList.take previewLength)
  "\n".intercalate (
    ["mlint markup spec",
      "  Elements:          " ++ toString inventory.elements,
      "  Attribute groups:  " ++ toString inventory.attributeGroups,
      "  Content models:    " ++ toString inventory.contentModels,
      vocabularyLine inventory .v11,
      vocabularyLine inventory .v12,
      ""] ++
    r.document.elements.map elementLine ++
    ["",
      "JSON output (" ++ toString written.utf8ByteSize ++ " bytes):",
      preview ++ "..."])

end Summary

end MarkupSemantics
