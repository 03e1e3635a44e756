import MarkupSemantics.Proofs.Occurrences
import MarkupSemantics.Proofs.RoundTrip

/-!
# Which documents pass the checks

`Document.Conforms` says what a document must be like to pass all checks: there is one part for each
check that can fail, stated in terms of the lists of the document. The main statement is
`all_passed_iff_conforms`: no check fails exactly if the document conforms, and each result has one
line for each occurrence that is not sound.
-/

namespace MarkupSemantics

/-- What holds of both versions holds of every version. -/
theorem Aria.forall_version_iff {p : Version → Prop} :
    (∀ version, p version) ↔ p .v11 ∧ p .v12 := by
  constructor
  · intro h
    exact ⟨h .v11, h .v12⟩
  · rintro ⟨h11, h12⟩ version
    cases version with
    | v11 => exact h11
    | v12 => exact h12

/-- What holds of every reference to a group and of every attribute holds of every entry. -/
theorem AttributeEntry.forall_iff {p : AttributeEntry → Prop} :
    (∀ entry, p entry) ↔ (∀ group, p (.group group)) ∧ ∀ a, p (.single a) := by
  constructor
  · intro h
    exact ⟨fun group => h (.group group), fun a => h (.single a)⟩
  · rintro ⟨hgroup, hsingle⟩ entry
    cases entry with
    | group group => exact hgroup group
    | single a => exact hsingle a

open Conformance

namespace Document

/-- `d.WellNamed` says the names in `d` have their shapes. -/
structure WellNamed (d : Document) : Prop where
  /-- Elements have the names of elements. -/
  elements : ∀ e ∈ d.elements, ElementShape e.name
  /-- Attributes of elements have the names of attributes. -/
  own : ∀ e ∈ d.elements, ∀ a, .single a ∈ e.attributes → AttributeShape a.name
  /-- Attributes in groups have the names of attributes. -/
  groups : ∀ group ∈ d.definitions.attributeGroups.entries, ∀ a ∈ group.2, AttributeShape a.name

/-- `d.GroupsDefined` says the groups that elements refer to are defined, except for the reference
to the shared attributes. -/
def GroupsDefined (d : Document) : Prop :=
  ∀ e ∈ d.elements, ∀ group, .group group ∈ e.attributes →
    group = AttributeEntry.globalReference ∨ group ∈ d.definitions.attributeGroups.keys

/-- `d.ElementRolesDeclared` says the roles of elements are declared in the later vocabulary. -/
structure ElementRolesDeclared (d : Document) : Prop where
  /-- The role that an element has on its own, with or without a condition. -/
  implicit : ∀ e ∈ d.elements, ∀ implicit, e.implicitRole = some implicit → ∀ role,
    (implicit.role = some role ∨ ∃ c ∈ implicit.cases, c.value = role) → role ∈ d.roleNames .v12
  /-- The roles that an element may be given, with or without a condition. -/
  permitted : ∀ e ∈ d.elements, ∀ permitted, e.permittedRoles = some permitted → ∀ roles,
    (permitted.base = .only roles ∨ ∃ c ∈ permitted.cases, c.value = .only roles) →
      ∀ role ∈ roles, role ∈ d.roleNames .v12

/-- `d.RolesResolved version` says what the roles of `version` refer to is declared in it. -/
structure RolesResolved (d : Document) (version : Aria.Version) : Prop where
  /-- The roles that a role specializes, must lie in or must contain. -/
  roles : ∀ role ∈ (d.aria version).allRoles,
    ∀ name ∈ role.generalization ++ role.requiredContextRole ++ role.requiredOwnedElements,
      name ∈ d.roleNames version
  /-- The properties that a role has or must not have. -/
  properties : ∀ role ∈ (d.aria version).allRoles,
    ∀ name ∈ role.ownedProperties.map (·.name) ++ role.prohibitedProperties,
      name ∈ d.propertyNames version

/-- `d.PropertiesTyped version` says the types of the properties of `version` are complete. -/
structure PropertiesTyped (d : Document) (version : Aria.Version) : Prop where
  /-- Where values are made of tokens, there are tokens. -/
  tokens : ∀ property ∈ (d.aria version).properties,
    property.value = .token ∨ property.value = .tokenList → property.tokens ≠ []
  /-- No type is unknown. -/
  known : ∀ property ∈ (d.aria version).properties, property.value ≠ .other
  /-- The roles for which there is another type are declared. -/
  overrides : ∀ property ∈ (d.aria version).properties, ∀ override ∈ property.overrides,
    ∀ role ∈ override.roles, role ∈ d.roleNames version

/-- `d.Conforms` says names in `d` have their shapes, what is referred to is declared, and
properties have types. -/
structure Conforms (d : Document) : Prop where
  /-- The names. -/
  names : d.WellNamed
  /-- The groups that elements refer to. -/
  groups : d.GroupsDefined
  /-- The roles of elements. -/
  elementRoles : d.ElementRolesDeclared
  /-- What roles refer to, in both versions. -/
  roles : ∀ version, d.RolesResolved version
  /-- The types of properties, in both versions. -/
  properties : ∀ version, d.PropertiesTyped version

/-! ### The occurrences of a document that conforms -/

variable {d : Document} {version : Aria.Version}

/-- The occurrences of own attributes are those of the entries that are attributes. -/
theorem forall_own_iff {element : String} {entries : List AttributeEntry} {p : Occurrence → Prop} :
    (∀ o ∈ entries.filterMap (Occurrence.ofOwn? element), p o) ↔
      ∀ a, .single a ∈ entries → p (.ownAttribute element a.name) := by
  rw [List.forall_mem_filterMap, AttributeEntry.forall_iff]
  simp [Occurrence.ofOwn?]

/-- The occurrences of references are those of the entries that name a group. -/
theorem forall_reference_iff {element : String} {entries : List AttributeEntry}
    {p : Occurrence → Prop} :
    (∀ o ∈ entries.filterMap (Occurrence.ofReference? element), p o) ↔
      ∀ group, .group group ∈ entries → p (.groupReference element group) := by
  rw [List.forall_mem_filterMap, AttributeEntry.forall_iff]
  simp [Occurrence.ofReference?]

/-- The names have their shapes exactly if the check of names finds all of them sound. -/
theorem well_named_iff : d.WellNamed ↔ ∀ o ∈ d.nameOccurrences, o.IsSound d := by
  simp only [nameOccurrences, List.forall_mem_append, List.forall_mem_flatMap,
    List.forall_mem_cons, List.forall_mem_map, forall_own_iff, forall₂_and, Occurrence.IsSound]
  constructor
  · intro h
    exact ⟨⟨h.elements, h.own⟩, h.groups⟩
  · rintro ⟨⟨helements, hown⟩, hgroups⟩
    exact ⟨helements, hown, hgroups⟩

/-- The groups are defined exactly if the check of references finds all of them sound. -/
theorem groups_defined_iff : d.GroupsDefined ↔ ∀ o ∈ d.groupOccurrences, o.IsSound d := by
  simp only [groupOccurrences, List.forall_mem_flatMap, forall_reference_iff, Occurrence.IsSound]
  rfl

/-- The implicit roles are the one without a condition and those of the cases. -/
theorem mem_implicit_roles_iff {implicit : ImplicitRole} {role : String} :
    role ∈ implicitRoles implicit ↔
      implicit.role = some role ∨ ∃ c ∈ implicit.cases, c.value = role := by
  simp [implicitRoles]

/-- Roles are listed where they are permitted by name. -/
theorem mem_listed_roles_iff {permission : Permission} {role : String} :
    role ∈ listedRoles permission ↔ ∃ roles, permission = .only roles ∧ role ∈ roles := by
  cases permission <;> simp [listedRoles]

/-- The permitted roles are those listed without a condition or in a case. -/
theorem mem_permitted_roles_iff {permitted : PermittedRoles} {role : String} :
    role ∈ permittedRoles permitted ↔
      ∃ roles, (permitted.base = .only roles ∨ ∃ c ∈ permitted.cases, c.value = .only roles) ∧
        role ∈ roles := by
  simp only [permittedRoles, List.mem_append, List.mem_flatMap, mem_listed_roles_iff]
  constructor
  · rintro (⟨roles, hbase, hrole⟩ | ⟨c, hc, roles, hvalue, hrole⟩)
    · exact ⟨roles, .inl hbase, hrole⟩
    · exact ⟨roles, .inr ⟨c, hc, hvalue⟩, hrole⟩
  · rintro ⟨roles, hbase | ⟨c, hc, hvalue⟩, hrole⟩
    · exact .inl ⟨roles, hbase, hrole⟩
    · exact .inr ⟨c, hc, roles, hvalue, hrole⟩

/-- The roles of elements are declared exactly if the check of them finds all of them sound. -/
theorem element_roles_declared_iff :
    d.ElementRolesDeclared ↔ ∀ o ∈ d.elementRoleOccurrences, o.IsSound d := by
  simp only [elementRoleOccurrences, List.forall_mem_flatMap, List.forall_mem_append,
    List.forall_mem_map, Option.mem_toList, forall₂_and, mem_implicit_roles_iff,
    mem_permitted_roles_iff, Occurrence.IsSound]
  constructor
  · intro h
    refine ⟨h.implicit, ?_⟩
    rintro e he permitted hpermitted role ⟨roles, hroles, hrole⟩
    exact h.permitted e he permitted hpermitted roles hroles role hrole
  · rintro ⟨himplicit, hpermitted⟩
    refine ⟨himplicit, ?_⟩
    intro e he permitted h roles hroles role hrole
    exact hpermitted e he permitted h role ⟨roles, hroles, hrole⟩

/-- What roles refer to is declared exactly if the check of roles finds all of it sound. -/
theorem roles_resolved_iff :
    d.RolesResolved version ↔ ∀ o ∈ d.roleOccurrences version, o.IsSound d := by
  simp only [roleOccurrences, List.forall_mem_flatMap, List.forall_mem_append,
    List.forall_mem_map, forall₂_and, Occurrence.IsSound]
  -- the check goes through five lists of names, which the clauses join to two
  constructor
  · intro h
    have hroles := h.roles
    have hproperties := h.properties
    simp only [List.forall_mem_append, List.forall_mem_map, forall₂_and] at hroles hproperties
    exact ⟨⟨hroles, hproperties.1⟩, hproperties.2⟩
  · rintro ⟨⟨hroles, howned⟩, hprohibited⟩
    constructor
    · simpa only [List.forall_mem_append, forall₂_and] using hroles
    · simpa only [List.forall_mem_append, List.forall_mem_map, forall₂_and] using
        ⟨howned, hprohibited⟩

/-- The types of properties are complete exactly if the check of properties finds all of them
sound. -/
theorem properties_typed_iff :
    d.PropertiesTyped version ↔ ∀ o ∈ d.propertyOccurrences version, o.IsSound d := by
  simp only [propertyOccurrences, List.forall_mem_flatMap, List.forall_mem_append,
    List.forall_mem_cons, List.forall_mem_map, List.not_mem_nil, forall₂_and, Occurrence.IsSound]
  constructor
  · intro h
    exact ⟨⟨h.tokens, h.known, by simp⟩, h.overrides⟩
  · rintro ⟨⟨htokens, hknown, -⟩, hoverrides⟩
    exact ⟨htokens, hknown, hoverrides⟩

/-- `d.occurrences` lists the occurrences that the checks must find sound. -/
def occurrences (d : Document) : List Occurrence :=
  d.nameOccurrences ++ d.groupOccurrences ++ d.elementRoleOccurrences ++
    (d.roleOccurrences .v11 ++ d.roleOccurrences .v12) ++
    (d.propertyOccurrences .v11 ++ d.propertyOccurrences .v12)

/-- A document conforms exactly if all occurrences in it are sound. -/
theorem conforms_iff : d.Conforms ↔ ∀ o ∈ d.occurrences, o.IsSound d := by
  simp only [occurrences, List.forall_mem_append, ← well_named_iff, ← groups_defined_iff,
    ← element_roles_declared_iff, ← roles_resolved_iff, ← properties_typed_iff,
    ← Aria.forall_version_iff]
  constructor
  · intro h
    exact ⟨⟨⟨⟨h.names, h.groups⟩, h.elementRoles⟩, h.roles⟩, h.properties⟩
  · rintro ⟨⟨⟨⟨hnames, hgroups⟩, helementRoles⟩, hroles⟩, hproperties⟩
    exact ⟨hnames, hgroups, helementRoles, hroles, hproperties⟩

instance : Decidable d.Conforms :=
  decidable_of_iff _ conforms_iff.symm

end Document

/-- The names in a list are all sound exactly if they are distinct and new. -/
theorem Occurrence.forall_of_list_iff {d : Document} {element : String}
    {before names : List String} :
    (∀ o ∈ ofList element before names, o.IsSound d) ↔
      names.Nodup ∧ ∀ name ∈ names, name ∉ before := by
  induction names generalizing before with
  | nil => simp [ofList]
  | cons name names ih =>
      rw [ofList, List.forall_mem_cons, ih, List.nodup_cons, List.forall_mem_cons, IsSound]
      simp only [List.mem_append, List.mem_singleton, not_or]
      constructor
      · rintro ⟨hname, hnodup, hfresh⟩
        refine ⟨⟨fun hmem => (hfresh name hmem).2 rfl, hnodup⟩, hname, ?_⟩
        exact fun other hother => (hfresh other hother).1
      · rintro ⟨⟨hnew, hnodup⟩, hname, hfresh⟩
        exact ⟨hname, hnodup, fun other hother =>
          ⟨hfresh other hother, ne_of_mem_of_not_mem hother hnew⟩⟩

namespace Conformance

variable {r : Repository}

/-- The check of attribute lists finds nothing exactly if every element has distinct attributes. -/
theorem resolution_violations_eq_nil_iff :
    resolutionViolations r = [] ↔ ∀ e ∈ r.document.elements, ∀ attributes,
      r.attributes? e.name = some attributes → (attributes.map (·.name)).Nodup := by
  rw [(reports_lists r).eq_nil_iff, Repository.listOccurrences, List.forall_mem_flatMap]
  refine forall₂_congr fun e he => ?_
  rw [Occurrence.forall_of_list_iff, Repository.attributes?_of_mem he]
  simp

/-! ### The results -/

/-- `severity.ifAny lines` is `severity` if there are any `lines`, and the weight of a pass
otherwise. -/
def Severity.ifAny (severity : Severity) (lines : List String) : Severity :=
  if lines = [] then .pass else severity

namespace Result

variable {validator subject : String} {violations : List String} {severity : Severity}

/-- A result has the lines that its check found, and no others. -/
theorem details_of_violations :
    (ofViolations validator subject violations severity).details = violations := by
  cases violations <;> rfl

/-- A result weighs nothing if its check found no lines. -/
theorem severity_of_violations :
    (ofViolations validator subject violations severity).severity = severity.ifAny violations := by
  cases violations <;> rfl

/-- A result is a failure exactly if there are lines and its check counts them as one. -/
@[simp] theorem is_failure_of_violations :
    (ofViolations validator subject violations severity).isFailure = true ↔
      violations ≠ [] ∧ severity = .failure := by
  rw [isFailure, severity_of_violations, Severity.ifAny]
  cases violations <;> simp

end Result

/-- All checks pass exactly if no result is a failure. -/
theorem all_passed_iff_forall {report : Report} :
    report.allPassed = true ↔ ∀ result ∈ report.results, ¬ result.isFailure = true := by
  simp [Report.allPassed, Report.failureCount, Report.failures]

/-- The checks report on the names, groups and roles of elements, on their attribute lists, on both
versions of the vocabulary, and on the written form, about which there is nothing to say. -/
theorem results_report (r : Repository) :
    (report r).results = [
      .ofViolations "elements" "names" (nameViolations r) .failure,
      .ofViolations "elements" "group references" (groupViolations r) .failure,
      .ofViolations "elements" "role references" (roleViolations r) .failure,
      .ofViolations "elements" "attribute resolution" (resolutionViolations r) .warning,
      .ofViolations "aria" "ARIA 1.1 roles"
        ((r.aria .v11).allRoles.flatMap (roleDefinitionViolations r .v11)) .failure,
      .ofViolations "aria" "ARIA 1.1 properties"
        ((r.aria .v11).properties.flatMap (propertyDefinitionViolations r .v11)) .failure,
      .ofViolations "aria" "ARIA 1.2 roles"
        ((r.aria .v12).allRoles.flatMap (roleDefinitionViolations r .v12)) .failure,
      .ofViolations "aria" "ARIA 1.2 properties"
        ((r.aria .v12).properties.flatMap (propertyDefinitionViolations r .v12)) .failure,
      .passed "serialization/json" "round trip: ok"] := by
  rw [report, documentReport, reload_violations_eq_nil]
  rfl

/-- No check fails exactly if the document conforms. -/
theorem all_passed_iff : (report r).allPassed = true ↔ r.document.Conforms := by
  rw [all_passed_iff_forall, results_report, Document.conforms_iff, Document.occurrences]
  simp only [List.forall_mem_append, List.forall_mem_cons, Result.is_failure_of_violations,
    ← (reports_names r).eq_nil_iff, ← (reports_groups r).eq_nil_iff,
    ← (reports_element_roles r).eq_nil_iff, ← (reports_roles r _).eq_nil_iff,
    ← (reports_properties r _).eq_nil_iff, and_true, not_not]
  -- the report goes version by version, what must be sound goes check by check
  constructor
  · rintro ⟨hnames, hgroups, helements, -, hroles11, hproperties11, hroles12, hproperties12, -⟩
    exact ⟨⟨⟨⟨hnames, hgroups⟩, helements⟩, hroles11, hroles12⟩, hproperties11, hproperties12⟩
  · rintro ⟨⟨⟨⟨hnames, hgroups⟩, helements⟩, hroles11, hroles12⟩, hproperties11, hproperties12⟩
    refine ⟨hnames, hgroups, helements, ?_, hroles11, hproperties11, hroles12, hproperties12, ?_⟩
    · -- attribute lists are reported with less weight, whatever their lines are
      rintro ⟨-, hweight⟩
      cases hweight
    · simp [Result.isFailure, Result.passed]

/-- No check fails exactly if the document conforms; a report is made for every repository. Each
check has one line for each occurrence that is not sound, in their order. These lines are the
details of its result, which has the weight chosen by the check if there are any and passes
otherwise. An element that has two attributes of one name is reported with the weight of a warning
only, and the written form is never reported. -/
theorem all_passed_iff_conforms (r : Repository) :
    ((report r).allPassed = true ↔ r.document.Conforms) ∧
      ∃ (names groups elementRoles lists : List String)
          (roles properties : Aria.Version → List String),
        (report r).results = [
          .ofViolations "elements" "names" names .failure,
          .ofViolations "elements" "group references" groups .failure,
          .ofViolations "elements" "role references" elementRoles .failure,
          .ofViolations "elements" "attribute resolution" lists .warning,
          .ofViolations "aria" "ARIA 1.1 roles" (roles .v11) .failure,
          .ofViolations "aria" "ARIA 1.1 properties" (properties .v11) .failure,
          .ofViolations "aria" "ARIA 1.2 roles" (roles .v12) .failure,
          .ofViolations "aria" "ARIA 1.2 properties" (properties .v12) .failure,
          .passed "serialization/json" "round trip: ok"] ∧
        (report r).results.map (·.details) = [names, groups, elementRoles, lists,
          roles .v11, properties .v11, roles .v12, properties .v12, []] ∧
        (report r).results.map (·.severity) = [Severity.failure.ifAny names,
          Severity.failure.ifAny groups, Severity.failure.ifAny elementRoles,
          Severity.warning.ifAny lists,
          Severity.failure.ifAny (roles .v11), Severity.failure.ifAny (properties .v11),
          Severity.failure.ifAny (roles .v12), Severity.failure.ifAny (properties .v12), .pass] ∧
        Reports r.document r.document.nameOccurrences names ∧
        Reports r.document r.document.groupOccurrences groups ∧
        Reports r.document r.document.elementRoleOccurrences elementRoles ∧
        (∀ version, Reports r.document (r.document.roleOccurrences version) (roles version)) ∧
        (∀ version,
          Reports r.document (r.document.propertyOccurrences version) (properties version)) ∧
        Reports r.document r.listOccurrences lists ∧
        (lists = [] ↔ ∀ e ∈ r.document.elements, ∀ attributes,
          r.attributes? e.name = some attributes → (attributes.map (·.name)).Nodup) := by
  refine ⟨all_passed_iff, nameViolations r, groupViolations r, roleViolations r,
    resolutionViolations r,
    fun version => (r.aria version).allRoles.flatMap (roleDefinitionViolations r version),
    fun version => (r.aria version).properties.flatMap (propertyDefinitionViolations r version),
    results_report r, ?_, ?_, reports_names r, reports_groups r, reports_element_roles r,
    reports_roles r, reports_properties r, reports_lists r, resolution_violations_eq_nil_iff⟩
  · simp only [results_report, List.map_cons, List.map_nil, Result.details_of_violations]
    rfl
  · simp only [results_report, List.map_cons, List.map_nil, Result.severity_of_violations]
    rfl

end Conformance

end MarkupSemantics
