import MarkupSemantics.Aria.Property

/-!
# The states and properties of WAI-ARIA

The `aria-*` attributes with the types of their values, the tokens they accept, and the HTML
attributes that mean the same.
-/

namespace MarkupSemantics.Catalog

open Aria

/-- `property name value` is a property with values of the type `value`. -/
def property (name : String) (value : ValueType) : Property :=
  { name := name, kind := .property, value := value }

/-- `state name value` is a state with values of the type `value`. -/
def state (name : String) (value : ValueType) : Property :=
  { name := name, kind := .state, value := value }

/-- The states and properties. -/
def properties : List Property := [
  property "aria-activedescendant" .idReference,
  { property "aria-atomic" .trueFalse with isGlobal := true, defaultValue := some "false" },
  { property "aria-autocomplete" .token with
      tokens := ["inline", "list", "both", "none"]
      defaultValue := some "none" },
  { state "aria-busy" .trueFalse with isGlobal := true, defaultValue := some "false" },
  { state "aria-checked" .tristate with
      overrides := [⟨["menuitemradio", "radio", "switch"], .trueFalseUndefined⟩]
      defaultValue := some "undefined"
      equivalents := [⟨"checked", false, some "true"⟩] },
  property "aria-colcount" .integer,
  property "aria-colindex" .integer,
  { property "aria-colspan" .integer with equivalents := [⟨"colspan", false, none⟩] },
  { property "aria-controls" .idReferenceList with isGlobal := true },
  { state "aria-current" .token with
      isGlobal := true
      tokens := ["page", "step", "location", "date", "time", "true", "false"]
      defaultValue := some "false" },
  { property "aria-describedby" .idReferenceList with isGlobal := true },
  { property "aria-details" .idReference with isGlobal := true },
  { state "aria-disabled" .trueFalse with
      defaultValue := some "false"
      equivalents := [⟨"disabled", false, some "true"⟩] },
  { property "aria-dropeffect" .tokenList with
      deprecated := true
      isGlobal := true
      tokens := ["copy", "execute", "link", "move", "none", "popup"]
      defaultValue := some "none" },
  property "aria-errormessage" .idReference,
  { state "aria-expanded" .trueFalseUndefined with defaultValue := some "undefined" },
  { property "aria-flowto" .idReferenceList with isGlobal := true },
  { state "aria-grabbed" .trueFalseUndefined with
      deprecated := true
      isGlobal := true
      defaultValue := some "undefined" },
  { property "aria-haspopup" .token with
      tokens := ["false", "true", "menu", "listbox", "tree", "grid", "dialog"]
      defaultValue := some "false" },
  { state "aria-hidden" .trueFalseUndefined with
      isGlobal := true
      defaultValue := some "undefined"
      equivalents := [⟨"hidden", true, none⟩] },
  { state "aria-invalid" .token with
      tokens := ["grammar", "false", "spelling", "true"]
      defaultValue := some "false" },
  { property "aria-keyshortcuts" .string with isGlobal := true },
  { property "aria-label" .string with isGlobal := true },
  { property "aria-labelledby" .idReferenceList with isGlobal := true },
  property "aria-level" .integer,
  { property "aria-live" .token with
      isGlobal := true
      tokens := ["assertive", "off", "polite"]
      defaultValue := some "off" },
  { property "aria-modal" .trueFalse with defaultValue := some "false" },
  { property "aria-multiline" .trueFalse with defaultValue := some "false" },
  { property "aria-multiselectable" .trueFalse with
      defaultValue := some "false"
      equivalents := [⟨"multiple", true, none⟩] },
  { property "aria-orientation" .token with tokens := ["horizontal", "undefined", "vertical"] },
  { property "aria-owns" .idReferenceList with isGlobal := true },
  { property "aria-placeholder" .string with equivalents := [⟨"placeholder", false, none⟩] },
  property "aria-posinset" .integer,
  { state "aria-pressed" .tristate with defaultValue := some "undefined" },
  { property "aria-readonly" .trueFalse with
      defaultValue := some "false"
      equivalents := [⟨"readonly", false, some "true"⟩] },
  { property "aria-relevant" .tokenList with
      isGlobal := true
      tokens := ["additions", "all", "removals", "text"]
      defaultValue := some "additions text" },
  { property "aria-required" .trueFalse with
      defaultValue := some "false"
      equivalents := [⟨"required", false, some "true"⟩] },
  { property "aria-roledescription" .string with isGlobal := true },
  property "aria-rowcount" .integer,
  property "aria-rowindex" .integer,
  { property "aria-rowspan" .integer with equivalents := [⟨"rowspan", false, none⟩] },
  { state "aria-selected" .trueFalseUndefined with defaultValue := some "undefined" },
  property "aria-setsize" .integer,
  { property "aria-sort" .token with
      tokens := ["ascending", "descending", "none", "other"]
      defaultValue := some "none" },
  { property "aria-valuemax" .number with equivalents := [⟨"max", true, none⟩] },
  { property "aria-valuemin" .number with equivalents := [⟨"min", true, none⟩] },
  { property "aria-valuenow" .number with equivalents := [⟨"value", true, none⟩] },
  property "aria-valuetext" .string]

end MarkupSemantics.Catalog
