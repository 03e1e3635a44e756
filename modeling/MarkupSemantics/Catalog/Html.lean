import MarkupSemantics.Catalog.Groups

/-!
# The elements of HTML

The elements of the HTML standard with their attributes and roles. Where a role depends on the
element, the selector stands beside it.
-/

namespace MarkupSemantics.Catalog

/-- `element name anchor` is an HTML element that is described at `anchor`. -/
def element (name anchor : String) : ElementDef :=
  (ElementDef.named name).withCite ("https://html.spec.whatwg.org/multipage/" ++ anchor)

/-- `htmlEntries own` is the attribute list of an HTML element: the shared attributes, the role, the
event handlers, and its `own` attributes. -/
def htmlEntries (own : List AttributeDef) : List AttributeEntry :=
  [.group AttributeEntry.globalReference, .group ariaGroup, .group eventGroup] ++ own.map .single

/-- No role may be asked for. -/
def noRole : PermittedRoles :=
  { base := .none }

/-- Every role may be asked for. -/
def anyRole : PermittedRoles :=
  { base := .any }

/-- `onlyRoles roles` permits the listed roles. -/
def onlyRoles (roles : List String) : PermittedRoles :=
  { base := .only roles }

/-- The elements of which every document consists. -/
def documentElements : List ElementDef := [
  element "html" "semantics.html#the-html-element"
    |>.withContents ["head", "body"]
    |>.withAttributes (htmlEntries [attr "manifest" "URL"])
    |>.withImplicitRole (.of "document")
    |>.withPermittedRoles noRole,
  element "head" "semantics.html#the-head-element"
    |>.withContents ["#metadata"]
    |>.withAttributes (htmlEntries [(attr "profile" "URLList").markObsolete])
    |>.withPermittedRoles noRole,
  element "title" "semantics.html#the-title-element"
    |>.withCategories ["#metadata"]
    |>.withContents ["#text"]
    |>.withAttributes (htmlEntries [])
    |>.withPermittedRoles noRole,
  element "body" "sections.html#the-body-element"
    |>.withContents ["#flow"]
    |>.withAttributes (htmlEntries [
        (attr "alink" "Color").markObsolete,
        (attr "bgcolor" "Color").markObsolete])
    |>.withImplicitRole (.of "generic")
    |>.withPermittedRoles noRole]

/-- The elements that divide a document into sections. -/
def sectioningElements : List ElementDef := [
  element "main" "grouping-content.html#the-main-element"
    |>.withCategories ["#flow", "#palpable"]
    |>.withContents ["#flow"]
    |>.withAttributes (htmlEntries [])
    |>.withImplicitRole (.of "main")
    |>.withPermittedRoles noRole,
  element "header" "sections.html#the-header-element"
    |>.withCategories ["#flow", "#palpable"]
    |>.withContents ["#flow"]
    |>.withAttributes (htmlEntries [])
    |>.withImplicitRole (.of "banner")
    |>.withPermittedRoles (onlyRoles ["group", "none", "presentation"]),
  element "footer" "sections.html#the-footer-element"
    |>.withCategories ["#flow", "#palpable"]
    |>.withContents ["#flow"]
    |>.withAttributes (htmlEntries [])
    |>.withImplicitRole (.of "contentinfo")
    |>.withPermittedRoles (onlyRoles ["group", "none", "presentation"]),
  element "nav" "sections.html#the-nav-element"
    |>.withCategories ["#flow", "#sectioning", "#palpable"]
    |>.withContents ["#flow"]
    |>.withAttributes (htmlEntries [])
    |>.withImplicitRole (.of "navigation")
    |>.withPermittedRoles (onlyRoles ["menu", "menubar", "none", "presentation", "tablist"]),
  element "aside" "sections.html#the-aside-element"
    |>.withCategories ["#flow", "#sectioning", "#palpable"]
    |>.withContents ["#flow"]
    |>.withAttributes (htmlEntries [])
    |>.withImplicitRole (.of "complementary")
    |>.withPermittedRoles (onlyRoles ["feed", "none", "note", "presentation", "region", "search"]),
  element "article" "sections.html#the-article-element"
    |>.withCategories ["#flow", "#sectioning", "#palpable"]
    |>.withContents ["#flow"]
    |>.withAttributes (htmlEntries [])
    |>.withImplicitRole (.of "article")
    |>.withPermittedRoles (onlyRoles ["application", "document", "feed", "main", "none",
        "presentation", "region"]),
  element "section" "sections.html#the-section-element"
    |>.withCategories ["#flow", "#sectioning", "#palpable"]
    |>.withContents ["#flow"]
    |>.withAttributes (htmlEntries [])
    |>.withImplicitRole { cases := [⟨"[aria-label],[aria-labelledby],[title]", "region"⟩] }
    |>.withPermittedRoles (onlyRoles ["alert", "alertdialog", "application", "banner",
        "complementary", "contentinfo", "dialog", "document", "feed", "log", "main", "marquee",
        "navigation", "none", "note", "presentation", "search", "status", "tabpanel"]),
  element "h1" "sections.html#the-h1,-h2,-h3,-h4,-h5,-and-h6-elements"
    |>.withCategories ["#flow", "#heading", "#palpable"]
    |>.withContents ["#phrasing"]
    |>.withAttributes (htmlEntries [(attr "align" "Any").markObsolete])
    |>.withImplicitRole (.of "heading")
    |>.withPermittedRoles (onlyRoles ["none", "presentation", "tab"]),
  element "h2" "sections.html#the-h1,-h2,-h3,-h4,-h5,-and-h6-elements"
    |>.withCategories ["#flow", "#heading", "#palpable"]
    |>.withContents ["#phrasing"]
    |>.withAttributes (htmlEntries [(attr "align" "Any").markObsolete])
    |>.withImplicitRole (.of "heading")
    |>.withPermittedRoles (onlyRoles ["none", "presentation", "tab"])]

/-- The roles that may be asked for by the elements of lists. -/
def listRoles : PermittedRoles :=
  onlyRoles ["directory", "group", "listbox", "menu", "menubar", "none", "presentation",
    "radiogroup", "tablist", "toolbar", "tree"]

/-- The elements that group content. -/
def groupingElements : List ElementDef := [
  element "div" "grouping-content.html#the-div-element"
    |>.withCategories ["#flow", "#palpable"]
    |>.withContents ["#flow"]
    |>.withAttributes (htmlEntries [(attr "align" "Any").markObsolete])
    |>.withImplicitRole (.of "generic")
    |>.withPermittedRoles anyRole,
  element "p" "grouping-content.html#the-p-element"
    |>.withCategories ["#flow", "#palpable"]
    |>.withContents ["#phrasing"]
    |>.withAttributes (htmlEntries [])
    |>.withImplicitRole (.of "paragraph")
    |>.withPermittedRoles anyRole,
  element "hr" "grouping-content.html#the-hr-element"
    |>.withCategories ["#flow"]
    |>.withAttributes (htmlEntries [
        (attr "noshade" "Boolean").markObsolete,
        (attr "size" "Int").markObsolete])
    |>.withImplicitRole (.of "separator")
    |>.withPermittedRoles (onlyRoles ["none", "presentation"]),
  element "ul" "grouping-content.html#the-ul-element"
    |>.withCategories ["#flow", "#palpable"]
    |>.withContents ["li", "#script-supporting"]
    |>.withAttributes (htmlEntries [
        (attr "compact" "Boolean").markObsolete,
        (attr "type" "Any").markObsolete])
    |>.withImplicitRole (.of "list")
    |>.withPermittedRoles listRoles,
  element "ol" "grouping-content.html#the-ol-element"
    |>.withCategories ["#flow", "#palpable"]
    |>.withContents ["li", "#script-supporting"]
    |>.withAttributes (htmlEntries [
        attr "reversed" "Boolean",
        attr "start" "Int",
        attr "type" "OrderedListType"])
    |>.withImplicitRole (.of "list")
    |>.withPermittedRoles listRoles,
  element "li" "grouping-content.html#the-li-element"
    |>.withContents ["#flow"]
    |>.withAttributes (htmlEntries [(attr "value" "Int").when (.inside "ol")])
    |>.withImplicitRole (.of "listitem")
    |>.withPermittedRoles (onlyRoles ["menuitem", "menuitemcheckbox", "menuitemradio", "option",
        "none", "presentation", "radio", "separator", "tab", "treeitem"])]

/-- The elements for parts of a text. -/
def textElements : List ElementDef := [
  element "a" "text-level-semantics.html#the-a-element"
    |>.withCategories ["#flow", "#phrasing", "#interactive", "#palpable"]
    |>.withContents ["#transparent"]
    |>.withAttributes (htmlEntries [
        attr "href" "URL",
        attr "target" "NavigableTargetNameOrKeyword",
        (attr "download" "Any").when (.matching "[href]"),
        attr "ping" "URLList",
        attr "rel" "LinkTypeList",
        attr "hreflang" "BCP47",
        attr "type" "MIMEType",
        attr "referrerpolicy" "ReferrerPolicy",
        (attr "charset" "Any").markObsolete,
        (attr "name" "Any").markObsolete])
    |>.withImplicitRole { role := some "generic", cases := [⟨"[href]", "link"⟩] }
    |>.withPermittedRoles {
        base := .only ["button", "checkbox", "menuitem", "menuitemcheckbox", "menuitemradio",
          "option", "radio", "switch", "tab", "treeitem"]
        cases := [
          ⟨":not([href])", .any⟩] },
  element "span" "text-level-semantics.html#the-span-element"
    |>.withCategories ["#flow", "#phrasing", "#palpable"]
    |>.withContents ["#phrasing"]
    |>.withAttributes (htmlEntries [])
    |>.withImplicitRole (.of "generic")
    |>.withPermittedRoles anyRole]

/-- `submitting name type` is an attribute of buttons that submit a form. -/
def submitting (name type : String) : AttributeDef :=
  (attr name type).when (.matchingAny [":not([type])", "[type=submit]"])

/-- The selectors of inputs that submit a form. -/
def submittingInput : List String :=
  ["[type=submit]", "[type=image]"]

/-- The selectors of inputs that can be checked. -/
def checkableInput : List String :=
  ["[type=checkbox]", "[type=radio]"]

/-- The selectors of inputs with values in a range. -/
def rangedInput : List String :=
  ["[type=date]", "[type=month]", "[type=week]", "[type=time]", "[type=datetime-local]",
    "[type=number]", "[type=range]"]

/-- The selectors of inputs for text. -/
def textualInput : List String :=
  [":not([type])", "[type=text]", "[type=search]", "[type=url]", "[type=tel]", "[type=email]",
    "[type=password]", "[type=number]"]

/-- The element for the fields of a form. -/
def input : ElementDef :=
  element "input" "input.html#the-input-element"
    |>.withCategories ["#flow", "#phrasing", "#interactive", "#palpable"]
    |>.withAttributes (htmlEntries [
        (attr "accept" "AcceptList").when (.matching "[type=file]"),
        (attr "alt" "String").when (.matching "[type=image]"),
        attr "autocomplete" "AutoComplete",
        (attr "checked" "Boolean").when (.matchingAny checkableInput),
        attr "dirname" "String",
        attr "disabled" "Boolean",
        attr "form" "Id",
        (attr "formaction" "URL").when (.matchingAny submittingInput),
        (attr "formenctype" "FormEnctype").when (.matchingAny submittingInput),
        (attr "formmethod" "FormMethod").when (.matchingAny submittingInput),
        (attr "formnovalidate" "Boolean").when (.matchingAny submittingInput),
        (attr "formtarget" "NavigableTargetNameOrKeyword").when (.matchingAny submittingInput),
        (attr "height" "Uint").when (.matching "[type=image]"),
        attr "list" "Id",
        (attr "max" "Any").when (.matchingAny rangedInput),
        (attr "maxlength" "Uint").when (.matchingAny textualInput),
        (attr "min" "Any").when (.matchingAny rangedInput),
        (attr "minlength" "Uint").when (.matchingAny textualInput),
        (attr "multiple" "Boolean").when (.matchingAny ["[type=email]", "[type=file]"]),
        attr "name" "String",
        (attr "pattern" "Pattern").when (.matchingAny textualInput),
        (attr "placeholder" "String").when (.matchingAny textualInput),
        attr "readonly" "Boolean",
        attr "required" "Boolean",
        (attr "size" "Uint").when (.matchingAny textualInput),
        (attr "src" "URL").when (.matching "[type=image]"),
        (attr "step" "Any").when (.matchingAny rangedInput),
        attr "type" "InputType",
        attr "value" "Any",
        (attr "width" "Uint").when (.matching "[type=image]"),
        (attr "usemap" "HashName").markObsolete])
    |>.withImplicitRole {
        role := some "textbox"
        cases := [
          ⟨"[type=button]", "button"⟩,
          ⟨"[type=checkbox]", "checkbox"⟩,
          ⟨"[type=email]:not([list])", "textbox"⟩,
          ⟨"[type=image]", "button"⟩,
          ⟨"[type=number]", "spinbutton"⟩,
          ⟨"[type=radio]", "radio"⟩,
          ⟨"[type=range]", "slider"⟩,
          ⟨"[type=reset]", "button"⟩,
          ⟨"[type=search]:not([list])", "searchbox"⟩,
          ⟨"[type=submit]", "button"⟩,
          ⟨"[list]", "combobox"⟩] }
    |>.withPermittedRoles {
        base := .none
        cases := [
          ⟨"[type=button]",
            .only ["checkbox", "combobox", "link", "menuitem", "menuitemcheckbox",
              "menuitemradio", "option", "radio", "switch", "tab"]⟩,
          ⟨"[type=checkbox]", .only ["button", "menuitemcheckbox", "option", "switch"]⟩,
          ⟨"[type=image]",
            .only ["link", "menuitem", "menuitemcheckbox", "menuitemradio", "radio", "switch"]⟩,
          ⟨"[type=radio]", .only ["menuitemradio"]⟩,
          ⟨":not([type]):not([list]),[type=text]:not([list])",
            .only ["combobox", "searchbox", "spinbutton"]⟩] }

/-- The elements of forms. -/
def formElements : List ElementDef := [
  element "form" "forms.html#the-form-element"
    |>.withCategories ["#flow", "#palpable"]
    |>.withContents ["#flow"]
    |>.withAttributes (htmlEntries [
        attr "accept-charset" "Any",
        attr "action" "URL",
        attr "autocomplete" "OnOff",
        attr "enctype" "FormEnctype",
        attr "method" "FormMethod",
        attr "name" "String",
        attr "novalidate" "Boolean",
        attr "target" "NavigableTargetNameOrKeyword"])
    |>.withImplicitRole (.of "form")
    |>.withPermittedRoles (onlyRoles ["search", "none", "presentation"]),
  element "label" "forms.html#the-label-element"
    |>.withCategories ["#flow", "#phrasing", "#interactive", "#palpable"]
    |>.withContents ["#phrasing"]
    |>.withAttributes (htmlEntries [attr "for" "Id"])
    |>.withPermittedRoles noRole,
  input,
  element "button" "form-elements.html#the-button-element"
    |>.withCategories ["#flow", "#phrasing", "#interactive", "#palpable"]
    |>.withContents ["#phrasing"]
    |>.withAttributes (htmlEntries [
        attr "disabled" "Boolean",
        attr "form" "Id",
        submitting "formaction" "URL",
        submitting "formenctype" "FormEnctype",
        submitting "formmethod" "FormMethod",
        submitting "formnovalidate" "Boolean",
        submitting "formtarget" "NavigableTargetNameOrKeyword",
        attr "name" "String",
        attr "popovertarget" "Id",
        attr "type" "ButtonType",
        attr "value" "Any"])
    |>.withImplicitRole (.of "button")
    |>.withPermittedRoles (onlyRoles ["checkbox", "combobox", "link", "menuitem",
        "menuitemcheckbox", "menuitemradio", "option", "radio", "switch", "tab"]),
  element "select" "form-elements.html#the-select-element"
    |>.withCategories ["#flow", "#phrasing", "#interactive", "#palpable"]
    |>.withContents ["option", "optgroup", "#script-supporting"]
    |>.withAttributes (htmlEntries [
        attr "autocomplete" "AutoComplete",
        attr "disabled" "Boolean",
        attr "form" "Id",
        attr "multiple" "Boolean",
        attr "name" "String",
        attr "required" "Boolean",
        attr "size" "Uint"])
    |>.withImplicitRole {
        role := some "combobox"
        cases := [
          ⟨"[multiple]", "listbox"⟩,
          ⟨"[size]:not([size='0']):not([size='1'])", "listbox"⟩] }
    |>.withPermittedRoles { base := .only ["menu"], cases := [⟨"[multiple]", .none⟩] },
  element "option" "form-elements.html#the-option-element"
    |>.withContents ["#text"]
    |>.withAttributes (htmlEntries [
        attr "disabled" "Boolean",
        attr "label" "String",
        attr "selected" "Boolean",
        attr "value" "Any"])
    |>.withImplicitRole (.of "option")
    |>.withPermittedRoles noRole,
  element "textarea" "form-elements.html#the-textarea-element"
    |>.withCategories ["#flow", "#phrasing", "#interactive", "#palpable"]
    |>.withContents ["#text"]
    |>.withAttributes (htmlEntries [
        attr "autocomplete" "AutoComplete",
        attr "cols" "Uint",
        attr "dirname" "String",
        attr "disabled" "Boolean",
        attr "form" "Id",
        attr "maxlength" "Uint",
        attr "minlength" "Uint",
        attr "name" "String",
        attr "placeholder" "String",
        attr "readonly" "Boolean",
        attr "required" "Boolean",
        attr "rows" "Uint",
        attr "wrap" "TextareaWrap"])
    |>.withImplicitRole (.of "textbox")
    |>.withPermittedRoles noRole]

/-- The elements with which a reader interacts. -/
def interactiveElements : List ElementDef := [
  element "details" "interactive-elements.html#the-details-element"
    |>.withCategories ["#flow", "#interactive", "#palpable"]
    |>.withContents ["summary", "#flow"]
    |>.withAttributes (htmlEntries [attr "name" "String", attr "open" "Boolean"])
    |>.withImplicitRole (.of "group")
    |>.withPermittedRoles noRole,
  element "summary" "interactive-elements.html#the-summary-element"
    |>.withContents ["#phrasing", "#heading"]
    |>.withAttributes (htmlEntries [])
    |>.withPermittedRoles noRole,
  element "dialog" "interactive-elements.html#the-dialog-element"
    |>.withCategories ["#flow"]
    |>.withContents ["#flow"]
    |>.withAttributes (htmlEntries [attr "open" "Boolean"])
    |>.withImplicitRole (.of "dialog")
    |>.withPermittedRoles (onlyRoles ["alertdialog"])]

/-- The element of tables. -/
def table : ElementDef :=
  element "table" "tables.html#the-table-element"
    |>.withCategories ["#flow", "#palpable"]
    |>.withContents ["caption", "colgroup", "thead", "tbody", "tr", "tfoot", "#script-supporting"]
    |>.withAttributes (htmlEntries [
        (attr "border" "Any").markObsolete,
        (attr "summary" "Any").markObsolete,
        (attr "width" "Any").markObsolete])
    |>.withImplicitRole (.of "table")
    |>.withPermittedRoles anyRole

/-- The element of images. -/
def image : ElementDef :=
  element "img" "embedded-content.html#the-img-element"
    |>.withCategories ["#flow", "#phrasing", "#embedded", "#palpable"]
    |>.withAttributes (htmlEntries [
        attr "alt" "String",
        attr "crossorigin" "CrossOrigin",
        attr "decoding" "ImageDecoding",
        attr "fetchpriority" "FetchPriority",
        attr "height" "Uint",
        attr "ismap" "Boolean",
        attr "loading" "LazyLoading",
        attr "referrerpolicy" "ReferrerPolicy",
        attr "sizes" "SourceSizeList",
        attr "src" "URL",
        attr "srcset" "Srcset",
        attr "usemap" "HashName",
        attr "width" "Uint",
        (attr "align" "Any").markObsolete,
        (attr "border" "Any").markObsolete,
        (attr "longdesc" "URL").markObsolete])
    |>.withImplicitRole { role := some "img", cases := [⟨"[alt='']", "presentation"⟩] }
    |>.withPermittedRoles {
        base := .only ["button", "checkbox", "link", "menuitem", "menuitemcheckbox",
          "menuitemradio", "meter", "option", "progressbar", "radio", "scrollbar", "separator",
          "slider", "switch", "tab", "treeitem"]
        cases := [
          ⟨"[alt='']", .only ["none", "presentation"]⟩] }

/-- The elements of HTML. -/
def htmlElements : List ElementDef :=
  documentElements ++ sectioningElements ++ groupingElements ++ textElements ++ formElements ++
    interactiveElements ++ [table, image]

end MarkupSemantics.Catalog
