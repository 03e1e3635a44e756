import MarkupSemantics.Aria.Vocabulary
import MarkupSemantics.ElementDef
import MarkupSemantics.Json.Printer
import MarkupSemantics.Json.Reader

/-!
# Documents

A document describes a markup language: its elements, the attributes and categories that they share,
and the accessibility vocabulary. It is written as a JSON object and read back from one.
-/

namespace MarkupSemantics

/-- What the elements of a document share. -/
structure Definitions where
  /-- The groups of attributes. -/
  attributeGroups : StringMap (List AttributeDef) := StringMap.empty
  /-- The vocabularies of WAI-ARIA. -/
  aria : Aria.Vocabularies := {}
  /-- The names of the elements in each category of content. -/
  contentModels : StringMap (List String) := StringMap.empty
  deriving DecidableEq, Inhabited

namespace Definitions

/-- `d.toJson` is the record of `d`. -/
def toJson (d : Definitions) : Json :=
  .ofRecord [
    Json.field "#globalAttrs" (.ofMap (.ofList AttributeDef.toJson) d.attributeGroups),
    Json.field "#aria" d.aria.toJson,
    Json.field "#contentModels" (.ofMap .ofStrings d.contentModels)]

/-- `ofJson? json` reads shared definitions from a record. -/
def ofJson? (json : Json) : Option Definitions := do
  let r ← json.record? ["#globalAttrs", "#aria", "#contentModels"]
  return {
    attributeGroups :=
      ← r.default "#globalAttrs" (Json.map? (Json.list? AttributeDef.ofJson?)) StringMap.empty
    aria := ← r.default "#aria" Aria.Vocabularies.ofJson? {}
    contentModels := ← r.default "#contentModels" (Json.map? Json.strings?) StringMap.empty }

end Definitions

/-- The description of a markup language. -/
structure Document where
  /-- Where the language is described. -/
  cites : List String := []
  /-- What its elements share. -/
  definitions : Definitions := {}
  /-- Its elements. -/
  elements : List ElementDef := []
  deriving DecidableEq, Inhabited

namespace Document

/-- `d.aria version` is the vocabulary of `version` in `d`. -/
def aria (d : Document) (version : Aria.Version) : Aria.Vocabulary :=
  d.definitions.aria.get version

/-- `d.toJson` is the record of `d`. -/
def toJson (d : Document) : Json :=
  .ofRecord [
    Json.field "cites" (.ofStrings d.cites),
    Json.field "def" d.definitions.toJson,
    Json.field "specs" (.ofList ElementDef.toJson d.elements)]

/-- `ofJson? json` reads a document from a record. -/
def ofJson? (json : Json) : Option Document := do
  let r ← json.record? ["cites", "def", "specs"]
  return {
    cites := ← r.list "cites" Json.string?
    definitions := ← r.required "def" Definitions.ofJson?
    elements := ← r.required "specs" (Json.list? ElementDef.ofJson?) }

/-- `ofText? text` reads a document from a JSON text. -/
def ofText? (text : String) : Option Document :=
  (Json.ofText? text).bind ofJson?

/-- `d.text` is the indented JSON text of `d`. -/
def text (d : Document) : String :=
  d.toJson.pretty

end Document

end MarkupSemantics
