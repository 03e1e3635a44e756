import MarkupSemantics.Conformance.Vocabulary
import MarkupSemantics.Proofs.Lookup
import MarkupSemantics.Proofs.NameShapes

/-!
# What the checks look at

An `Occurrence` is one place of a document that a check looks at: a name that must have a shape or
be new, a reference that must have a target, or a property that must have values. `Reports` says
that a list of lines has exactly one line for each occurrence that is not sound, and the lemmas at
the end say it of the checks of elements and of the vocabulary.
-/

namespace MarkupSemantics

/-- An element of the document is found under its name. -/
theorem Repository.attributes?_of_mem {r : Repository} {e : ElementDef}
    (he : e ∈ r.document.elements) : r.attributes? e.name = some (r.attributesOf e) := by
  rw [attributes?, element?_eq_some_iff.2 ⟨he, rfl⟩, Option.map_some]

/-- `d.propertyNames version` lists the names of the properties of `version`. -/
def Document.propertyNames (d : Document) (version : Aria.Version) : List String :=
  (d.aria version).properties.map (·.name)

/-- A property is found exactly when it is declared. -/
theorem Repository.property?_is_some_iff {r : Repository} {version : Aria.Version} {name : String} :
    (r.property? version name).isSome ↔ name ∈ r.document.propertyNames version := by
  simp [property?, Aria.Vocabulary.property?, Document.propertyNames, aria]

/-- A place of a document that is checked. -/
inductive Occurrence where
  /-- The name of an element. -/
  | elementName (element : String)
  /-- The name of an attribute that an element gives itself. -/
  | ownAttribute (element name : String)
  /-- The name of an attribute in a group. -/
  | groupAttribute (group name : String)
  /-- A reference of an element to a group. -/
  | groupReference (element group : String)
  /-- A role that an element has or may be given, as `kind` says. -/
  | elementRole (element kind role : String)
  /-- The name of an attribute in the list of an element, after the names `before`. -/
  | listedAttribute (element : String) (before : List String) (name : String)
  /-- A role that stands in `relation` to another one. -/
  | relatedRole (version : Aria.Version) (role relation related : String)
  /-- A property that a role makes `use` of. -/
  | usedProperty (version : Aria.Version) (role use property : String)
  /-- The tokens of a property. -/
  | tokens (property : Aria.Property)
  /-- The type of the values of a property. -/
  | valueType (property : Aria.Property)
  /-- A role for which a property has another type of values. -/
  | overriddenRole (version : Aria.Version) (property role : String)

namespace Occurrence

open Conformance (ElementShape AttributeShape angled)

/-- `o.IsSound d` says the name, reference or property at `o` is as it must be in `d`. The reference
to the attributes that HTML elements share stands for itself. -/
def IsSound (d : Document) : Occurrence → Prop
  | elementName element => ElementShape element
  | ownAttribute _ name => AttributeShape name
  | groupAttribute _ name => AttributeShape name
  | groupReference _ group =>
      group = AttributeEntry.globalReference ∨ group ∈ d.definitions.attributeGroups.keys
  | elementRole _ _ role => role ∈ d.roleNames .v12
  | listedAttribute _ before name => name ∉ before
  | relatedRole version _ _ related => related ∈ d.roleNames version
  | usedProperty version _ _ property => property ∈ d.propertyNames version
  | tokens property =>
      property.value = .token ∨ property.value = .tokenList → property.tokens ≠ []
  | valueType property => property.value ≠ .other
  | overriddenRole version _ role => role ∈ d.roleNames version

instance (d : Document) (o : Occurrence) : Decidable (o.IsSound d) :=
  match o with
  | .elementName element => inferInstanceAs (Decidable (ElementShape element))
  | .ownAttribute _ name => inferInstanceAs (Decidable (AttributeShape name))
  | .groupAttribute _ name => inferInstanceAs (Decidable (AttributeShape name))
  | .groupReference _ group => inferInstanceAs (Decidable (group = _ ∨ group ∈ _))
  | .elementRole _ _ role => inferInstanceAs (Decidable (role ∈ d.roleNames .v12))
  | .listedAttribute _ before name => inferInstanceAs (Decidable (name ∉ before))
  | .relatedRole version _ _ related => inferInstanceAs (Decidable (related ∈ d.roleNames version))
  | .usedProperty version _ _ property =>
      inferInstanceAs (Decidable (property ∈ d.propertyNames version))
  | .tokens property =>
      inferInstanceAs (Decidable (property.value = .token ∨ property.value = .tokenList →
        property.tokens ≠ []))
  | .valueType property => inferInstanceAs (Decidable (property.value ≠ .other))
  | .overriddenRole version _ role => inferInstanceAs (Decidable (role ∈ d.roleNames version))

/-- `o.line` is the line about `o` in a report. -/
def line : Occurrence → String
  | elementName element => "element " ++ angled element
  | ownAttribute element name => angled element ++ " attribute " ++ Text.quoted name
  | groupAttribute group name => "group " ++ group ++ " attribute " ++ Text.quoted name
  | groupReference element group => angled element ++ " references undefined group " ++ group
  | elementRole element kind role =>
      angled element ++ " " ++ kind ++ " role " ++ Text.quoted role ++ " is unknown"
  | listedAttribute element _ name => angled element ++ " resolves " ++ Text.quoted name ++ " twice"
  | relatedRole _ role relation related =>
      role ++ ": " ++ relation ++ " role " ++ Text.quoted related ++ " is unknown"
  | usedProperty _ role use property =>
      role ++ ": " ++ use ++ " property " ++ property ++ " is undefined"
  | tokens property => property.name ++ ": token type without enumerated values"
  | valueType property => property.name ++ ": unknown value type"
  | overriddenRole _ property role =>
      property ++ ": conditional value for unknown role " ++ Text.quoted role

/-- `ofOwn? element entry` is the name of the attribute that `entry` gives to `element`. -/
def ofOwn? (element : String) : AttributeEntry → Option Occurrence
  | .group _ => none
  | .single a => some (.ownAttribute element a.name)

/-- `ofList element before names` takes `names` one after the other, each with the names before. -/
def ofList (element : String) (before : List String) : List String → List Occurrence
  | [] => []
  | name :: names =>
      .listedAttribute element before name :: ofList element (before ++ [name]) names

/-- `ofReference? element entry` is the reference of `element` to a group, if `entry` is one. -/
def ofReference? (element : String) : AttributeEntry → Option Occurrence
  | .group group => some (.groupReference element group)
  | .single _ => none

end Occurrence

namespace Document

/-- `d.nameOccurrences` lists the names of the elements, each with those of its own attributes, and
then the names of the attributes in groups. -/
def nameOccurrences (d : Document) : List Occurrence :=
  (d.elements.flatMap fun e =>
    .elementName e.name :: e.attributes.filterMap (Occurrence.ofOwn? e.name)) ++
  d.definitions.attributeGroups.entries.flatMap fun (group, attributes) =>
    attributes.map (.groupAttribute group ·.name)

/-- `d.groupOccurrences` lists the references to groups. -/
def groupOccurrences (d : Document) : List Occurrence :=
  d.elements.flatMap fun e => e.attributes.filterMap (Occurrence.ofReference? e.name)

/-- `d.elementRoleOccurrences` lists the roles that elements have on their own or may be given, with
and without a condition. -/
def elementRoleOccurrences (d : Document) : List Occurrence :=
  d.elements.flatMap fun e =>
    (e.implicitRole.toList.flatMap fun implicit =>
      (Conformance.implicitRoles implicit).map (.elementRole e.name "implicit")) ++
    e.permittedRoles.toList.flatMap fun permitted =>
      (Conformance.permittedRoles permitted).map (.elementRole e.name "permitted")

/-- `d.roleOccurrences version` lists the roles and properties that the roles of `version` refer
to. -/
def roleOccurrences (d : Document) (version : Aria.Version) : List Occurrence :=
  (d.aria version).allRoles.flatMap fun role =>
    role.generalization.map (.relatedRole version role.name "generalization") ++
    role.requiredContextRole.map (.relatedRole version role.name "required context") ++
    role.requiredOwnedElements.map (.relatedRole version role.name "required owned") ++
    (role.ownedProperties.map (·.name)).map (.usedProperty version role.name "owned") ++
    role.prohibitedProperties.map (.usedProperty version role.name "prohibited")

/-- `d.propertyOccurrences version` lists the tokens and the type of each property of `version`, and
the roles for which its values have another type. -/
def propertyOccurrences (d : Document) (version : Aria.Version) : List Occurrence :=
  (d.aria version).properties.flatMap fun property =>
    [.tokens property, .valueType property] ++ property.overrides.flatMap fun override =>
      override.roles.map (.overriddenRole version property.name)

end Document

/-- `r.listOccurrences` lists the names in the attribute list of each element. -/
def Repository.listOccurrences (r : Repository) : List Occurrence :=
  r.document.elements.flatMap fun e =>
    Occurrence.ofList e.name [] ((r.attributesOf e).map (·.name))

/-- `Reports d occurrences lines` says `lines` has the line of each of `occurrences` that is not
sound in `d`, once and in order, and no other line. -/
inductive Reports (d : Document) : List Occurrence → List String → Prop where
  | nil : Reports d [] []
  | sound (o occurrences lines) :
      o.IsSound d → Reports d occurrences lines → Reports d (o :: occurrences) lines
  | fault (o occurrences lines) :
      ¬ o.IsSound d → Reports d occurrences lines → Reports d (o :: occurrences) (o.line :: lines)

namespace Reports

variable {d : Document} {occurrences others : List Occurrence} {lines rest : List String}
  {o : Occurrence}

/-- The lines about two lists of occurrences are put together. -/
theorem append (h : Reports d occurrences lines) (hrest : Reports d others rest) :
    Reports d (occurrences ++ others) (lines ++ rest) := by
  induction h with
  | nil => exact hrest
  | sound _ _ _ hsound _ ih => exact .sound _ _ _ hsound ih
  | fault _ _ _ hfault _ ih => exact .fault _ _ _ hfault ih

/-- What is reported of the parts is reported of the whole. -/
theorem flat_map {α : Type} {xs : List α} {occurrences : α → List Occurrence}
    {lines : α → List String} (h : ∀ x ∈ xs, Reports d (occurrences x) (lines x)) :
    Reports d (xs.flatMap occurrences) (xs.flatMap lines) := by
  induction xs with
  | nil => exact .nil
  | cons x xs ih =>
      rw [List.flatMap_cons, List.flatMap_cons]
      exact (h x List.mem_cons_self).append (ih fun y hy => h y (List.mem_cons_of_mem _ hy))

/-- What is reported of each item is reported of all that some items contribute. -/
theorem filter_map {α : Type} {xs : List α} {occurrence : α → Option Occurrence}
    {line : α → Option String} (h : ∀ x ∈ xs, Reports d (occurrence x).toList (line x).toList) :
    Reports d (xs.filterMap occurrence) (xs.filterMap line) := by
  rw [List.filterMap_eq_flatMap_toList, List.filterMap_eq_flatMap_toList]
  exact flat_map h

/-- One occurrence is reported by a test for what is wrong with it. -/
theorem singleton {rejected : Prop} [Decidable rejected] (h : rejected ↔ ¬ o.IsSound d) :
    Reports d [o] (if rejected then [o.line] else []) := by
  split
  · rename_i hrejected
    exact .fault _ _ _ (h.1 hrejected) .nil
  · rename_i haccepted
    exact .sound _ _ _ (not_not.1 fun hfault => haccepted (h.2 hfault)) .nil

/-- One occurrence is reported by a test that it should pass. -/
theorem singleton_else {accepted : Prop} [Decidable accepted] (h : accepted ↔ o.IsSound d) :
    Reports d [o] (if accepted then [] else [o.line]) := by
  rw [← ite_not]
  exact singleton (not_congr h)

/-- Occurrences of one kind are reported by a filter. -/
theorem filter {α : Type} {occurrence : α → Occurrence} {rejected : α → Bool}
    (h : ∀ x, rejected x = true ↔ ¬ (occurrence x).IsSound d) (xs : List α) :
    Reports d (xs.map occurrence) ((xs.filter rejected).map fun x => (occurrence x).line) := by
  induction xs with
  | nil => exact .nil
  | cons x xs ih =>
      by_cases hx : rejected x = true
      · rw [List.filter_cons_of_pos hx]
        exact .fault _ _ _ ((h x).1 hx) ih
      · rw [List.filter_cons_of_neg hx]
        exact .sound _ _ _ (not_not.1 fun hfault => hx ((h x).2 hfault)) ih

/-- Nothing is reported exactly if all is sound. -/
theorem eq_nil_iff (h : Reports d occurrences lines) :
    lines = [] ↔ ∀ o ∈ occurrences, o.IsSound d := by
  induction h with
  | nil => simp
  | sound o occurrences lines hsound _ ih => simp [ih, hsound]
  | fault o occurrences lines hfault _ ih => simp [hfault]

end Reports

/-! ### The lines of the checks -/

namespace Conformance

variable {r : Repository} {version : Aria.Version}

/-- A name is refused exactly if it has not the shape of an attribute name. -/
theorem not_is_attribute_name_iff {name : String} :
    (!isAttributeName name) = true ↔ ¬ AttributeShape name := by
  rw [← is_attribute_name_iff]
  simp

/-- A role is missed exactly if its version does not declare it. -/
theorem not_is_role_iff {name : String} :
    (!isRole r version name) = true ↔ name ∉ r.document.roleNames version := by
  rw [← Repository.role?_is_some_iff, isRole]
  simp

/-- A property is missed exactly if its version does not declare it. -/
theorem not_is_property_iff {name : String} :
    (!isProperty r version name) = true ↔ name ∉ r.document.propertyNames version := by
  rw [← Repository.property?_is_some_iff, isProperty]
  simp

/-- The check of names has a line for each name that is not sound. -/
theorem reports_names (r : Repository) :
    Reports r.document r.document.nameOccurrences (nameViolations r) := by
  refine .append (.flat_map fun e _ => ?_) (.flat_map fun group _ => ?_)
  · refine .append (.singleton_else is_element_name_iff) (.filter_map fun entry _ => ?_)
    cases entry with
    | group name => exact .nil
    | single a =>
        simp only [Option.toList_some, apply_ite Option.toList, Option.toList_none]
        exact .singleton_else is_attribute_name_iff
  · exact .filter (fun _ => not_is_attribute_name_iff) group.2

/-- The check of references to groups has a line for each one that is not sound. -/
theorem reports_groups (r : Repository) :
    Reports r.document r.document.groupOccurrences (groupViolations r) := by
  refine .flat_map fun e _ => .filter_map fun entry _ => ?_
  cases entry with
  | single a => exact .nil
  | group name =>
      simp only [Option.toList_some, apply_ite Option.toList, Option.toList_none]
      exact .singleton_else (or_congr_right StringMap.get?_is_some_iff)

/-- Names of roles that are not found are reported. -/
theorem reports_unknown_roles (e : ElementDef) (kind : String) (roles : List String) :
    Reports r.document (roles.map (.elementRole e.name kind))
      ((unknownRoles r roles).map fun role =>
        angled e.name ++ " " ++ kind ++ " role " ++ Text.quoted role ++ " is unknown") := by
  refine .filter (fun role => ?_) roles
  rw [Occurrence.IsSound, ← Repository.role?_is_some_iff]
  simp

/-- The check of the roles of elements has a line for each one that is not sound. -/
theorem reports_element_roles (r : Repository) :
    Reports r.document r.document.elementRoleOccurrences (roleViolations r) := by
  refine .flat_map fun e _ => .append (.flat_map fun implicit _ => ?_)
    (.flat_map fun permitted _ => ?_)
  · exact reports_unknown_roles e "implicit" _
  · exact reports_unknown_roles e "permitted" _

/-- A name that occurs before is reported, if the names `seen` are those of the list so far. -/
theorem reports_repeats (element : String) {seen before names : List String}
    (h : ∀ name, name ∈ seen ↔ name ∈ before) :
    Reports r.document (Occurrence.ofList element before names)
      ((repeats seen names).map fun name =>
        angled element ++ " resolves " ++ Text.quoted name ++ " twice") := by
  induction names generalizing seen before with
  | nil => exact .nil
  | cons name names ih =>
      rw [repeats, Occurrence.ofList]
      split
      · -- the name is kept once, but stands twice in the list so far
        rename_i hseen
        have hbefore : name ∈ before := (h name).1 (by simpa using hseen)
        refine .fault _ _ _ (not_not.2 hbefore) (ih fun other => ?_)
        rw [h, List.mem_append, List.mem_singleton]
        exact ⟨.inl, fun hother => hother.elim id (· ▸ hbefore)⟩
      · rename_i hnew
        have hfresh : name ∉ before := fun hbefore => hnew (by simpa using (h name).2 hbefore)
        refine .sound _ _ _ hfresh (ih fun other => ?_)
        rw [List.mem_cons, h, List.mem_append, List.mem_singleton, or_comm]

/-- The check of attribute lists has a line for each name that is not new. -/
theorem reports_lists (r : Repository) :
    Reports r.document r.listOccurrences (resolutionViolations r) := by
  refine .flat_map fun e he => ?_
  rw [Repository.attributes?_of_mem he]
  exact reports_repeats e.name fun _ => Iff.rfl

/-- A list of related roles has a line for each one that is not declared. -/
theorem reports_relation (role : Aria.Role) (relation : String) (names : List String) :
    Reports r.document (names.map (.relatedRole version role.name relation))
      (relationViolations r version role relation names) :=
  .filter (fun _ => not_is_role_iff) names

/-- A list of used properties has a line for each one that is not declared. -/
theorem reports_use (role : Aria.Role) (use : String) (names : List String) :
    Reports r.document (names.map (.usedProperty version role.name use))
      (propertyViolations r version role use names) :=
  .filter (fun _ => not_is_property_iff) names

/-- The check of the roles of a version has a line for each reference that is not sound. -/
theorem reports_roles (r : Repository) (version : Aria.Version) :
    Reports r.document (r.document.roleOccurrences version)
      ((r.aria version).allRoles.flatMap (roleDefinitionViolations r version)) := by
  refine .flat_map fun role _ => ?_
  exact ((((reports_relation role _ _).append (reports_relation role _ _)).append
    (reports_relation role _ _)).append (reports_use role _ _)).append (reports_use role _ _)

/-- There is a line about tokens exactly if there should be some and are none. -/
theorem token_fault_iff {property : Aria.Property} :
    (takesTokens property.value && property.tokens.isEmpty) = true ↔
      ¬ (Occurrence.tokens property).IsSound r.document := by
  simp [takesTokens, Occurrence.IsSound]

/-- There is a line about a type exactly if it is unknown. -/
theorem type_fault_iff {property : Aria.Property} :
    (property.value == .other) = true ↔ ¬ (Occurrence.valueType property).IsSound r.document := by
  simp [Occurrence.IsSound]

/-- The check of the properties of a version has a line for each part that is not sound. -/
theorem reports_properties (r : Repository) (version : Aria.Version) :
    Reports r.document (r.document.propertyOccurrences version)
      ((r.aria version).properties.flatMap (propertyDefinitionViolations r version)) := by
  refine .flat_map fun property _ => ?_
  exact ((Reports.singleton token_fault_iff).append (.singleton type_fault_iff)).append
    (.flat_map fun override _ => .filter (fun _ => not_is_role_iff) override.roles)

end Conformance

end MarkupSemantics
