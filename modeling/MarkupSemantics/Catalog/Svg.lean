import MarkupSemantics.Catalog.Html

/-!
# The elements of SVG

The elements of the SVG standard with their attributes and roles. Their names have the qualifier of
the namespace.
-/

namespace MarkupSemantics.Catalog

/-- `svgElement name anchor` is an SVG element that is described at `anchor`. -/
def svgElement (name anchor : String) : ElementDef :=
  (ElementDef.named name).withCite ("https://svgwg.org/svg2-draft/" ++ anchor)

/-- `svgEntriesAfter own` is the attribute list of an SVG element: the groups that most of them
share, and its `own` entries. -/
def svgEntriesAfter (own : List AttributeEntry) : List AttributeEntry :=
  [.group svgCoreGroup, .group svgPresentationGroup, .group ariaGroup, .group eventGroup] ++ own

/-- `svgEntries own` is the attribute list of an SVG element with its `own` attributes. -/
def svgEntries (own : List AttributeDef) : List AttributeEntry :=
  svgEntriesAfter (own.map .single)

/-- The elements of SVG. -/
def svgElements : List ElementDef := [
  svgElement "svg:svg" "struct.html#SVGElement"
    |>.withCategories ["#flow", "#phrasing", "#embedded", "#palpable", "#SVGContainer"]
    |>.withContents ["#SVGDescriptive", "#SVGShape", "#SVGStructural"]
    |>.withAttributes (svgEntries [
        (attr "viewBox" "ViewBox").markCaseSensitive,
        attr "preserveAspectRatio" "PreserveAspectRatio",
        attr "x" "LengthPercentage",
        attr "y" "LengthPercentage",
        attr "width" "LengthPercentage",
        attr "height" "LengthPercentage",
        (attr "version" "Any").markObsolete,
        (attr "baseProfile" "Any").markObsolete])
    |>.withImplicitRole (.of "graphics-document")
    |>.withPermittedRoles anyRole,
  svgElement "svg:g" "struct.html#GElement"
    |>.withCategories ["#SVGContainer", "#SVGStructural"]
    |>.withContents ["#SVGDescriptive", "#SVGShape", "#SVGStructural"]
    |>.withAttributes (svgEntries [])
    |>.withImplicitRole {}
    |>.withPermittedRoles anyRole,
  svgElement "svg:circle" "shapes.html#CircleElement"
    |>.withCategories ["#SVGShape", "#SVGGraphics"]
    |>.withContents ["#SVGDescriptive"]
    |>.withAttributes (svgEntries [
        attr "cx" "LengthPercentage",
        attr "cy" "LengthPercentage",
        attr "r" "LengthPercentage",
        attr "pathLength" "Number"])
    |>.withImplicitRole (.of "graphics-symbol")
    |>.withPermittedRoles anyRole,
  svgElement "svg:a" "linking.html#AElement"
    |>.withCategories ["#SVGContainer", "#SVGStructural"]
    |>.withContents ["#transparent"]
    |>.withAttributes (svgEntriesAfter [
        .single (attr "href" "URL"),
        .group xlinkGroup,
        .single (attr "target" "NavigableTargetNameOrKeyword"),
        .single ((attr "download" "Any").when (.matching "[href]")),
        .single (attr "rel" "LinkTypeList")])
    |>.withImplicitRole { role := some "group", cases := [⟨"[href]", "link"⟩] }
    |>.withPermittedRoles anyRole,
  svgElement "svg:text" "text.html#TextElement"
    |>.withCategories ["#SVGGraphics", "#SVGTextContent"]
    |>.withContents ["#text", "#SVGDescriptive"]
    |>.withAttributes (svgEntries [attr "x" "Any", attr "y" "Any", attr "lengthAdjust" "Any"])
    |>.withImplicitRole (.of "group")
    |>.withPermittedRoles anyRole,
  svgElement "svg:title" "struct.html#TitleElement"
    |>.withCategories ["#SVGDescriptive"]
    |>.withContents ["#text"]
    |>.withAttributes [.group svgCoreGroup]
    |>.withPermittedRoles noRole]

end MarkupSemantics.Catalog
