import MarkupSemantics.Aria.Role

/-!
# The roles of WAI-ARIA

The core roles of version 1.2, the roles that this version added, and the roles of the graphics
module.
-/

namespace MarkupSemantics.Catalog

open Aria

/-- `role name parents` is a role that specializes `parents` and may be named by the author. -/
def role (name : String) (parents : List String) : Role :=
  { name := name, generalization := parents, accessibleNameFromAuthor := true }

/-- `abstractRole name parents` is a role that exists only to be specialized. -/
def abstractRole (name : String) (parents : List String) : Role :=
  { role name parents with isAbstract := true }

/-- `supported names` lists properties that a role may have. -/
def supported (names : List String) : List OwnedProperty :=
  names.map fun name => { name := name }

/-- `required names` lists properties that a role must have. -/
def required (names : List String) : List OwnedProperty :=
  names.map fun name => { name := name, required := true }

/-- The core roles apart from those for text. -/
def structuralRoles : List Role := [
  abstractRole "roletype" [],
  abstractRole "structure" ["roletype"],
  abstractRole "widget" ["roletype"],
  { abstractRole "window" ["roletype"] with
      ownedProperties := supported ["aria-modal"] },
  abstractRole "command" ["widget"],
  { abstractRole "composite" ["widget"] with
      ownedProperties := supported ["aria-activedescendant"] },
  { abstractRole "input" ["widget"] with
      ownedProperties := supported ["aria-disabled"] },
  abstractRole "section" ["structure"],
  abstractRole "sectionhead" ["structure"],
  abstractRole "landmark" ["section"],
  { abstractRole "range" ["structure"] with
      ownedProperties :=
        supported ["aria-valuemax", "aria-valuemin", "aria-valuenow", "aria-valuetext"] },
  { abstractRole "select" ["composite", "group"] with
      ownedProperties := supported ["aria-orientation"] },
  role "alert" ["section"],
  { role "alertdialog" ["alert", "dialog"] with
      accessibleNameRequired := true },
  { role "application" ["structure"] with
      ownedProperties :=
        supported ["aria-activedescendant", "aria-disabled", "aria-expanded", "aria-haspopup"] },
  { role "article" ["document"] with
      ownedProperties := supported ["aria-posinset", "aria-setsize"] },
  role "banner" ["landmark"],
  { role "button" ["command"] with
      ownedProperties :=
        supported ["aria-disabled", "aria-expanded", "aria-haspopup", "aria-pressed"]
      accessibleNameRequired := true
      accessibleNameFromContent := true
      childrenPresentational := true },
  { role "cell" ["section"] with
      ownedProperties :=
        supported ["aria-colindex", "aria-colspan", "aria-rowindex", "aria-rowspan"]
      requiredContextRole := ["row"]
      accessibleNameFromContent := true },
  { role "checkbox" ["input"] with
      ownedProperties :=
        required ["aria-checked"] ++
        supported ["aria-errormessage", "aria-expanded", "aria-invalid", "aria-readonly",
          "aria-required"]
      accessibleNameRequired := true
      accessibleNameFromContent := true
      childrenPresentational := true },
  { role "columnheader" ["cell", "gridcell", "sectionhead"] with
      ownedProperties := supported ["aria-sort"]
      requiredContextRole := ["row"]
      accessibleNameRequired := true
      accessibleNameFromContent := true },
  { role "combobox" ["input"] with
      ownedProperties :=
        required ["aria-expanded"] ++
        supported ["aria-activedescendant", "aria-autocomplete", "aria-controls",
          "aria-errormessage", "aria-haspopup", "aria-invalid", "aria-readonly", "aria-required"]
      accessibleNameRequired := true },
  role "complementary" ["landmark"],
  role "contentinfo" ["landmark"],
  role "definition" ["section"],
  { role "dialog" ["window"] with
      accessibleNameRequired := true },
  role "directory" ["list"],
  { role "document" ["structure"] with
      ownedProperties := supported ["aria-expanded"] },
  role "feed" ["list"],
  role "figure" ["section"],
  role "form" ["landmark"],
  { role "grid" ["composite", "table"] with
      ownedProperties := supported ["aria-multiselectable", "aria-readonly"]
      requiredOwnedElements := ["row", "rowgroup"]
      accessibleNameRequired := true },
  { role "gridcell" ["cell", "widget"] with
      ownedProperties :=
        supported ["aria-disabled", "aria-errormessage", "aria-expanded", "aria-haspopup",
          "aria-invalid", "aria-readonly", "aria-required", "aria-selected"]
      requiredContextRole := ["row"]
      accessibleNameFromContent := true },
  { role "group" ["section"] with
      ownedProperties := supported ["aria-activedescendant", "aria-disabled"] },
  { role "heading" ["sectionhead"] with
      ownedProperties := required ["aria-level"]
      accessibleNameRequired := true
      accessibleNameFromContent := true },
  { role "img" ["section"] with
      accessibleNameRequired := true
      childrenPresentational := true },
  { role "link" ["command"] with
      ownedProperties := supported ["aria-disabled", "aria-expanded", "aria-haspopup"]
      accessibleNameRequired := true
      accessibleNameFromContent := true },
  { role "list" ["section"] with
      requiredOwnedElements := ["listitem"] },
  { role "listbox" ["select"] with
      ownedProperties :=
        supported ["aria-errormessage", "aria-expanded", "aria-invalid", "aria-multiselectable",
          "aria-readonly", "aria-required"]
      requiredOwnedElements := ["group", "option"]
      accessibleNameRequired := true },
  { role "listitem" ["section"] with
      ownedProperties := supported ["aria-level", "aria-posinset", "aria-setsize"]
      requiredContextRole := ["directory", "list"] },
  role "log" ["section"],
  role "main" ["landmark"],
  role "marquee" ["section"],
  role "math" ["section"],
  { role "menu" ["select"] with
      requiredOwnedElements := ["group", "menuitem", "menuitemcheckbox", "menuitemradio"] },
  role "menubar" ["menu"],
  { role "menuitem" ["command"] with
      ownedProperties :=
        supported ["aria-disabled", "aria-expanded", "aria-haspopup", "aria-posinset",
          "aria-setsize"]
      requiredContextRole := ["group", "menu", "menubar"]
      accessibleNameRequired := true
      accessibleNameFromContent := true },
  { role "menuitemcheckbox" ["menuitem"] with
      ownedProperties := required ["aria-checked"]
      requiredContextRole := ["group", "menu", "menubar"]
      accessibleNameRequired := true
      accessibleNameFromContent := true
      childrenPresentational := true },
  { role "menuitemradio" ["menuitemcheckbox"] with
      ownedProperties := required ["aria-checked"]
      requiredContextRole := ["group", "menu", "menubar"]
      accessibleNameRequired := true
      accessibleNameFromContent := true
      childrenPresentational := true },
  role "navigation" ["landmark"],
  { role "none" ["structure"] with
      accessibleNameFromAuthor := false
      accessibleNameProhibited := true },
  role "note" ["section"],
  { role "option" ["input"] with
      ownedProperties :=
        required ["aria-selected"] ++
        supported ["aria-checked", "aria-posinset", "aria-setsize"]
      requiredContextRole := ["group", "listbox"]
      accessibleNameRequired := true
      accessibleNameFromContent := true
      childrenPresentational := true },
  { role "presentation" ["structure"] with
      accessibleNameFromAuthor := false
      accessibleNameProhibited := true },
  { role "progressbar" ["range", "widget"] with
      childrenPresentational := true },
  { role "radio" ["input"] with
      ownedProperties := required ["aria-checked"] ++ supported ["aria-posinset", "aria-setsize"]
      accessibleNameRequired := true
      accessibleNameFromContent := true
      childrenPresentational := true },
  { role "radiogroup" ["select"] with
      ownedProperties :=
        supported ["aria-errormessage", "aria-invalid", "aria-readonly", "aria-required"]
      requiredOwnedElements := ["radio"]
      accessibleNameRequired := true },
  { role "region" ["landmark"] with
      accessibleNameRequired := true },
  { role "row" ["group", "widget"] with
      ownedProperties :=
        supported ["aria-colindex", "aria-expanded", "aria-level", "aria-posinset",
          "aria-rowindex", "aria-selected", "aria-setsize"]
      requiredContextRole := ["grid", "rowgroup", "table", "treegrid"]
      requiredOwnedElements := ["cell", "columnheader", "gridcell", "rowheader"]
      accessibleNameFromContent := true },
  { role "rowgroup" ["structure"] with
      requiredContextRole := ["grid", "table", "treegrid"]
      requiredOwnedElements := ["row"]
      accessibleNameFromContent := true },
  { role "rowheader" ["cell", "gridcell", "sectionhead"] with
      ownedProperties := supported ["aria-sort"]
      requiredContextRole := ["row"]
      accessibleNameRequired := true
      accessibleNameFromContent := true },
  { role "scrollbar" ["range", "widget"] with
      ownedProperties :=
        required ["aria-controls", "aria-valuenow"] ++
        supported ["aria-disabled", "aria-orientation"]
      childrenPresentational := true },
  role "search" ["landmark"],
  { role "searchbox" ["textbox"] with
      accessibleNameRequired := true },
  { role "separator" ["structure", "widget"] with
      ownedProperties :=
        supported ["aria-disabled", "aria-orientation", "aria-valuenow", "aria-valuemax",
          "aria-valuemin", "aria-valuetext"]
      childrenPresentational := true },
  { role "slider" ["input", "range"] with
      ownedProperties :=
        required ["aria-valuenow"] ++
        supported ["aria-errormessage", "aria-haspopup", "aria-invalid", "aria-orientation",
          "aria-readonly"]
      accessibleNameRequired := true
      childrenPresentational := true },
  { role "spinbutton" ["composite", "input", "range"] with
      ownedProperties :=
        supported ["aria-errormessage", "aria-invalid", "aria-readonly", "aria-required"]
      accessibleNameRequired := true },
  role "status" ["section"],
  { role "switch" ["checkbox"] with
      ownedProperties := required ["aria-checked"]
      accessibleNameRequired := true
      accessibleNameFromContent := true
      childrenPresentational := true },
  { role "tab" ["sectionhead", "widget"] with
      ownedProperties :=
        supported ["aria-disabled", "aria-expanded", "aria-haspopup", "aria-posinset",
          "aria-selected", "aria-setsize"]
      requiredContextRole := ["tablist"]
      accessibleNameFromContent := true
      childrenPresentational := true },
  { role "table" ["section"] with
      ownedProperties := supported ["aria-colcount", "aria-rowcount"]
      requiredOwnedElements := ["row", "rowgroup"]
      accessibleNameRequired := true },
  { role "tablist" ["composite"] with
      ownedProperties := supported ["aria-multiselectable", "aria-orientation"]
      requiredOwnedElements := ["tab"] },
  { role "tabpanel" ["section"] with
      accessibleNameRequired := true },
  role "term" ["section"],
  { role "textbox" ["input"] with
      ownedProperties :=
        supported ["aria-activedescendant", "aria-autocomplete", "aria-errormessage",
          "aria-haspopup", "aria-invalid", "aria-multiline", "aria-placeholder", "aria-readonly",
          "aria-required"]
      accessibleNameRequired := true },
  role "timer" ["status"],
  { role "toolbar" ["group"] with
      ownedProperties := supported ["aria-orientation"] },
  { role "tooltip" ["section"] with
      accessibleNameFromContent := true },
  { role "tree" ["select"] with
      ownedProperties :=
        supported ["aria-errormessage", "aria-invalid", "aria-multiselectable", "aria-required"]
      requiredOwnedElements := ["group", "treeitem"]
      accessibleNameRequired := true },
  { role "treegrid" ["grid", "tree"] with
      requiredOwnedElements := ["row", "rowgroup"]
      accessibleNameRequired := true },
  { role "treeitem" ["listitem", "option"] with
      ownedProperties := supported ["aria-expanded", "aria-haspopup"]
      requiredContextRole := ["group", "tree"]
      accessibleNameRequired := true
      accessibleNameFromContent := true }]

/-- `textRole name` is a role for text, which must not have a name. -/
def textRole (name : String) : Role :=
  { role name ["section"] with
      accessibleNameFromAuthor := false
      accessibleNameProhibited := true }

/-- The core roles that describe text. -/
def textRoles : List Role := [
  { role "caption" ["section"] with
      requiredContextRole := ["figure", "grid", "table", "treegrid"] },
  textRole "code",
  textRole "deletion",
  textRole "emphasis",
  textRole "generic",
  textRole "insertion",
  textRole "paragraph",
  textRole "strong",
  textRole "subscript",
  textRole "superscript",
  role "blockquote" ["section"],
  role "time" ["section"],
  { role "meter" ["range"] with
      ownedProperties := required ["aria-valuenow"]
      accessibleNameRequired := true
      childrenPresentational := true }]

/-- The core roles. -/
def coreRoles : List Role :=
  structuralRoles ++ textRoles

/-- The names of the roles that version 1.2 added. -/
def addedRoles : List String := [
  "blockquote", "caption", "code", "deletion", "emphasis", "generic", "insertion", "meter",
  "paragraph", "strong", "subscript", "superscript", "time"]

/-- The roles of the graphics module. -/
def graphicsRoles : List Role := [
  { role "graphics-document" ["document"] with
      accessibleNameRequired := true },
  role "graphics-object" ["group"],
  { role "graphics-symbol" ["img"] with
      accessibleNameRequired := true
      childrenPresentational := true }]

end MarkupSemantics.Catalog
