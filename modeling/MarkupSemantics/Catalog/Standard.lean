import MarkupSemantics.Catalog.Properties
import MarkupSemantics.Catalog.Roles
import MarkupSemantics.Catalog.Svg
import MarkupSemantics.Repository

/-!
# The document of the standards

The elements of HTML and SVG with the vocabulary of WAI-ARIA as one document, and its repository.
The earlier version of the vocabulary lacks the roles that the later one added.
-/

namespace MarkupSemantics.Catalog

/-- The vocabulary of version 1.2. -/
def laterVocabulary : Aria.Vocabulary where
  roles := coreRoles
  graphicsRoles := graphicsRoles
  properties := properties

/-- The vocabulary of version 1.1. -/
def earlierVocabulary : Aria.Vocabulary :=
  { laterVocabulary with
    roles := coreRoles.filter fun role => !addedRoles.contains role.name }

/-- The elements of HTML and SVG. -/
def elements : List ElementDef :=
  htmlElements ++ svgElements

/-- `groupByCategory elements` lists the names of `elements` under each of their categories. -/
def groupByCategory (elements : List ElementDef) : StringMap (List String) :=
  elements.foldl
    (fun models element =>
      element.categories.foldl (fun models category => models.append category element.name) models)
    StringMap.empty

/-- The document of the standards. -/
def standard : Document where
  cites := [
    "https://html.spec.whatwg.org/multipage/",
    "https://www.w3.org/TR/wai-aria-1.2/",
    "https://www.w3.org/TR/wai-aria-1.1/",
    "https://www.w3.org/TR/graphics-aria-1.0/",
    "https://www.w3.org/TR/html-aria/",
    "https://svgwg.org/svg2-draft/"]
  definitions := {
    attributeGroups := attributeGroups
    aria := { v11 := earlierVocabulary, v12 := laterVocabulary }
    contentModels := groupByCategory elements }
  elements := elements

end MarkupSemantics.Catalog

namespace MarkupSemantics.Repository

/-- The repository of the document without parts. -/
def empty : Repository where
  document := {}
  elements_distinct := List.nodup_nil
  roles_distinct version := by cases version <;> exact List.nodup_nil
  acyclic version := by
    cases version <;> exact ⟨fun _ => ⟨_, fun _ ⟨_, hrole, _⟩ => by cases hrole⟩⟩

/-- The repository of the document of the standards. -/
def standard : Repository :=
  match ofDocument Catalog.standard with
  | .ok r => r
  | .error _ => empty

end MarkupSemantics.Repository
