import MarkupSemantics.ElementDef

/-!
# Groups of attributes

The attributes that many elements share, under the names by which the elements refer to them.
-/

namespace MarkupSemantics.Catalog

/-- `attr name type` is an attribute with values of one type. -/
def attr (name type : String) : AttributeDef :=
  { name := name, type := some (.one type) }

/-- `attrOf name types` is an attribute with values of several types. -/
def attrOf (name : String) (types : List String) : AttributeDef :=
  { name := name, type := some (.many types) }

/-- The group of the attribute for the role. -/
def ariaGroup : String :=
  "#ARIAAttrs"

/-- The group of the event handlers. -/
def eventGroup : String :=
  "#GlobalEventAttrs"

/-- The group of the attributes of all SVG elements. -/
def svgCoreGroup : String :=
  "#SVGCoreAttrs"

/-- The group of the attributes for the look of SVG elements. -/
def svgPresentationGroup : String :=
  "#SVGPresentationAttrs"

/-- The group of the attributes for links in SVG. -/
def xlinkGroup : String :=
  "#XLinkAttrs"

/-- The attributes that all HTML elements share. -/
def htmlAttributes : List AttributeDef := [
  attr "accesskey" "KeyboardShortcut",
  attr "autocapitalize" "Autocapitalize",
  attr "autofocus" "Boolean",
  attr "class" "ClassNames",
  attr "contenteditable" "ContentEditable",
  attr "dir" "Dir",
  attr "draggable" "TrueFalse",
  attr "enterkeyhint" "EnterKeyHint",
  attrOf "hidden" ["Boolean", "UntilFound"],
  (attr "id" "Id").markCaseSensitive,
  attr "inert" "Boolean",
  attr "inputmode" "InputMode",
  attr "is" "CustomElementName",
  attr "itemid" "URL",
  attr "itemprop" "ItemProp",
  attr "itemref" "IdList",
  attr "itemscope" "Boolean",
  attr "itemtype" "URLList",
  attr "lang" "BCP47",
  attr "nonce" "String",
  (attr "popover" "Popover").markExperimental,
  attr "slot" "String",
  attr "spellcheck" "TrueFalseEmpty",
  attr "style" "StyleDeclaration",
  attr "tabindex" "Int",
  attr "title" "Any",
  attr "translate" "YesNoEmpty"]

/-- The names of the event handlers. -/
def eventNames : List String :=
  ["onblur", "onchange", "onclick", "oncontextmenu", "ondblclick", "onfocus", "oninput",
    "oninvalid", "onkeydown", "onkeyup", "onload", "onmousedown", "onmouseup", "onreset",
    "onscroll", "onsubmit"]

/-- The event handlers. -/
def eventAttributes : List AttributeDef :=
  eventNames.map (attr · "EventHandler")

/-- The attributes of all SVG elements. -/
def svgCoreAttributes : List AttributeDef := [
  (attr "id" "Id").markCaseSensitive,
  attr "lang" "BCP47",
  attr "tabindex" "Int",
  attr "class" "ClassNames",
  attr "style" "StyleDeclaration",
  (attr "xml:lang" "BCP47").markDeprecated,
  (attr "xml:space" "XmlSpace").markDeprecated]

/-- The attributes for the look of SVG elements. -/
def svgPresentationAttributes : List AttributeDef := [
  attr "fill" "Paint",
  attr "fill-opacity" "AlphaValue",
  attr "opacity" "AlphaValue",
  attr "stroke" "Paint",
  attr "stroke-width" "LengthPercentage",
  attr "transform" "TransformList",
  attr "visibility" "Visibility"]

/-- The attributes for links in SVG. -/
def xlinkAttributes : List AttributeDef := [
  (attr "xlink:href" "URL").markDeprecated,
  (attr "xlink:title" "Any").markDeprecated]

/-- The groups by name. The group of extensions is empty. -/
def attributeGroups : StringMap (List AttributeDef) :=
  StringMap.ofList [
    (AttributeEntry.htmlGlobalGroup, htmlAttributes),
    (ariaGroup, [attr "role" "RoleList"]),
    (eventGroup, eventAttributes),
    (svgCoreGroup, svgCoreAttributes),
    (svgPresentationGroup, svgPresentationAttributes),
    (xlinkGroup, xlinkAttributes),
    (AttributeEntry.extensionGroup, [])]

end MarkupSemantics.Catalog
