import MarkupSemantics.Proofs.Ancestry
import MarkupSemantics.Proofs.AttributeResolution
import MarkupSemantics.Proofs.Conformity
import MarkupSemantics.Rules.ElementRole
import MarkupSemantics.Tree.Element

/-!
# What the checks promise to the rules

Where no check fails, the rules meet no name without a target: the roles that they find for an
element are declared, every reference to a group contributes its attributes, and every parent of a
role is followed. The main statement is `references_resolve`; it holds for every type of elements,
however selectors are matched there.
-/

namespace MarkupSemantics

/-! ### Roles of elements -/

section Roles

variable {ε : Type} [MarkupElement ε] {e : ε} {r : Repository} {role : String}
  {roles : List String}

/-- What applies to an element is the value of some case. -/
theorem Case.exists_of_select {α : Type} {cases : List (Case α)} {value : α}
    (h : Case.select cases e = some value) : ∃ c ∈ cases, c.value = value := by
  obtain ⟨c, hfound, hvalue⟩ := Option.map_eq_some_iff.1 h
  exact ⟨c, List.mem_of_find?_eq_some hfound, hvalue⟩

/-- The role that is selected is the one without a condition or the one of a case. -/
theorem ImplicitRole.of_select? {implicit : ImplicitRole} (h : implicit.select? e = some role) :
    implicit.role = some role ∨ ∃ c ∈ implicit.cases, c.value = role := by
  have hrole := (Option.filter_eq_some_iff.1 h).1
  rcases Option.or_eq_some_iff.1 hrole with hcase | ⟨-, hbase⟩
  · exact .inr (Case.exists_of_select hcase)
  · exact .inl hbase

/-- A role in the list with an implicit role is that one or in the list without it. -/
theorem Permission.mem_of_including {implicit : Option String} {permission : Permission}
    (h : permission.including implicit = .only roles) (hrole : role ∈ roles) :
    implicit = some role ∨ ∃ listed, permission = .only listed ∧ role ∈ listed := by
  unfold including at h
  split at h
  · rename_i own hown
    have himplicit : implicit = some own := (Option.filter_eq_some_iff.1 hown).1
    cases permission with
    | any => cases h
    | only listed =>
        cases h
        rcases List.mem_cons.1 hrole with rfl | hlisted
        · exact .inl himplicit
        · exact .inr ⟨listed, rfl, hlisted⟩
    | none =>
        cases h
        exact .inl (List.mem_singleton.1 hrole ▸ himplicit)
  · exact .inr ⟨roles, h, hrole⟩

namespace Repository

/-- The definition of an element is listed in the document. -/
theorem mem_of_definition? {definition : ElementDef} (h : r.definition? e = some definition) :
    definition ∈ r.document.elements :=
  (element?_eq_some_iff.1 h).1

/-- The role that an element has on its own is declared. -/
theorem implicit_role?_declared (hdeclared : r.document.ElementRolesDeclared)
    (h : r.implicitRole? e = some role) : role ∈ r.document.roleNames .v12 := by
  unfold implicitRole? at h
  obtain ⟨definition, hdefinition, h⟩ := Option.bind_eq_some_iff.1 h
  obtain ⟨implicit, himplicit, h⟩ := Option.bind_eq_some_iff.1 h
  exact hdeclared.implicit definition (mem_of_definition? hdefinition) implicit himplicit role
    (ImplicitRole.of_select? h)

/-- The roles that an element may be given by name are declared. -/
theorem permission_declared (hdeclared : r.document.ElementRolesDeclared)
    (h : r.permission e = .only roles) : ∀ role ∈ roles, role ∈ r.document.roleNames .v12 := by
  intro role hrole
  unfold permission at h
  split at h
  · cases h
  · rename_i permitted hpermitted
    obtain ⟨definition, hdefinition, hpermitted⟩ := Option.bind_eq_some_iff.1 hpermitted
    rcases Permission.mem_of_including h hrole with himplicit | ⟨listed, hlisted, hmem⟩
    · exact implicit_role?_declared hdeclared himplicit
    · refine hdeclared.permitted definition (mem_of_definition? hdefinition) permitted hpermitted
        listed ?_ role hmem
      cases hselect : Case.select permitted.cases e with
      | none =>
          rw [hselect] at hlisted
          exact .inl hlisted
      | some value =>
          rw [hselect] at hlisted
          exact .inr (Case.exists_of_select (hselect.trans (congrArg some hlisted)))

/-- A role that is said to be unknown is not declared. -/
theorem not_declared_of_unknown {version : Aria.Version}
    (h : r.verifiedRole version e = .error (.unknown role)) :
    role ∉ r.document.roleNames version := by
  unfold verifiedRole at h
  split at h
  · cases h
  · split at h
    · cases h
    · split at h
      · rename_i hnone
        cases h
        rw [← role?_is_some_iff, hnone]
        exact Bool.false_ne_true
      · split at h
        · cases h
        · split at h <;> cases h

end Repository

end Roles

/-! ### Groups of attributes -/

section Groups

variable {r : Repository} {entries : List AttributeEntry}

/-- `Extends r before entries after` says that `entries`, read one after the other, extend the names
`before` to `after`: a reference adds the names of its group, and an attribute of the element adds
its name if it is new. Only the reference to the shared attributes may be without a group. -/
inductive Extends (r : Repository) : List String → List AttributeEntry → List String → Prop where
  | nil (names) : Extends r names [] names
  | group (before name attributes entries after) :
      r.group? name = some attributes →
      Extends r (before ++ attributes.map (·.name)) entries after →
      Extends r before (.group name :: entries) after
  | shared (before name entries after) :
      name = AttributeEntry.globalReference → r.group? name = none →
      Extends r before entries after →
      Extends r before (.group name :: entries) after
  | own (before a entries after) :
      Extends r (if a.name ∈ before then before else before ++ [a.name]) entries after →
      Extends r before (.single a :: entries) after

/-- Where groups are defined, entries extend the names by what they are read as. -/
theorem extends_foldl {attributes : List AttributeDef}
    (h : ∀ group, .group group ∈ entries →
      group = AttributeEntry.globalReference ∨ (r.group? group).isSome) :
    Extends r (attributes.map (·.name)) entries
      ((entries.foldl r.addEntry attributes).map (·.name)) := by
  induction entries generalizing attributes with
  | nil => exact .nil _
  | cons entry entries ih =>
      have hrest : Extends r ((r.addEntry attributes entry).map (·.name)) entries
          (((entry :: entries).foldl r.addEntry attributes).map (·.name)) :=
        ih fun group hgroup => h group (List.mem_cons_of_mem _ hgroup)
      cases entry with
      | group name =>
          rw [Repository.addEntry, Repository.groupAttributes, List.map_append] at hrest
          cases hgroup : r.group? name with
          | some found =>
              rw [hgroup] at hrest
              exact .group _ name found _ _ hgroup hrest
          | none =>
              -- only the reference to the shared attributes gets here
              rw [hgroup, Option.getD_none, List.map_nil, List.append_nil] at hrest
              have hshared : name = AttributeEntry.globalReference :=
                (h name List.mem_cons_self).resolve_right (by simp [hgroup])
              exact .shared _ name _ _ hshared hgroup hrest
      | single a =>
          refine .own _ a _ _ ?_
          rw [Repository.addEntry, AttributeDef.map_name_refine_first] at hrest
          split at hrest
          · rename_i hold
            rwa [if_pos hold, ← List.append_nil (attributes.map _)]
          · rename_i hnew
            rwa [if_neg hnew]

/-- Where groups are defined, no entry of an element is left out of its attributes. -/
theorem attributes?_of_groups_defined (hgroups : r.document.GroupsDefined) {e : ElementDef}
    (he : e ∈ r.document.elements) :
    ∃ attributes names, r.attributes? e.name = some attributes ∧
      Extends r ((r.sharedAttributes e).map (·.name)) e.attributes names ∧
      attributes.map (·.name) =
        names ++ (r.groupAttributes AttributeEntry.extensionGroup).map (·.name) := by
  refine ⟨r.attributesOf e, _, Repository.attributes?_of_mem he, extends_foldl ?_, ?_⟩
  · intro group hgroup
    exact (hgroups e he group hgroup).imp_right StringMap.get?_is_some_iff.2
  · rw [Repository.attributesOf, List.map_append]

end Groups

/-! ### Ancestors of roles -/

namespace Repository

variable {r : Repository} {version : Aria.Version} {role : Aria.Role}

/-- The roles found under declared names have these names. -/
theorem map_name_filter_map_role? {names : List String}
    (h : ∀ name ∈ names, name ∈ r.document.roleNames version) :
    (names.filterMap (r.role? version)).map (·.name) = names := by
  induction names with
  | nil => rfl
  | cons name names ih =>
      obtain ⟨found, hfound⟩ :=
        Option.isSome_iff_exists.1 (role?_is_some_iff.2 (h name List.mem_cons_self))
      have hname : found.name = name := Aria.name_of_find_role? hfound
      rw [List.filterMap_cons_some hfound, List.map_cons, hname,
        ih fun other hother => h other (List.mem_cons_of_mem _ hother)]

/-- The ancestors of a role whose parents are declared are all its parents and then their
ancestors. -/
theorem map_name_ancestors (hrole : role ∈ (r.aria version).allRoles)
    (h : ∀ name ∈ role.generalization, name ∈ r.document.roleNames version) :
    (r.ancestors version role.name).map (·.name) = role.generalization ++
      role.generalization.flatMap fun parent => (r.ancestors version parent).map (·.name) := by
  have hfound : r.role? version role.name = some role :=
    (Aria.find_role?_eq_some_iff (r.roles_distinct version)).2 ⟨hrole, rfl⟩
  have hparents : (r.parents version role).map (·.name) = role.generalization :=
    map_name_filter_map_role? h
  have hclosures : ((r.parents version role).flatMap fun parent =>
      (r.ancestors version parent.name).map (·.name)) =
        role.generalization.flatMap fun parent => (r.ancestors version parent).map (·.name) := by
    rw [← hparents, List.flatMap_map]
  rw [ancestors_eq hfound, List.map_append, List.map_flatMap, hparents, hclosures]

/-- Whatever a role or one of its ancestors specializes is an ancestor. -/
theorem mem_names_ancestors
    (h : ∀ role ∈ (r.aria version).allRoles, ∀ name ∈ role.generalization,
      name ∈ r.document.roleNames version)
    (hrole : role ∈ (r.aria version).allRoles) {child : Aria.Role}
    (hchild : child ∈ role :: r.ancestors version role.name) {parent : String}
    (hparent : parent ∈ child.generalization) :
    parent ∈ (r.ancestors version role.name).map (·.name) := by
  -- the role is reached from itself in no steps, its ancestors in some
  have hreached : child ∈ (r.aria version).allRoles ∧
      Relation.ReflTransGen (r.document.Specializes version) role.name child.name := by
    rcases List.mem_cons.1 hchild with rfl | hancestor
    · exact ⟨hrole, .refl⟩
    · obtain ⟨hdeclared, hway⟩ := reached_of_mem_ancestors hancestor
      exact ⟨hdeclared, hway.to_reflTransGen⟩
  obtain ⟨hdeclared, hway⟩ := hreached
  have hname : parent ∈ r.document.roleNames version := h child hdeclared parent hparent
  have hstep : r.document.Specializes version child.name parent :=
    ⟨⟨child, hdeclared, rfl, hparent⟩, hname⟩
  obtain ⟨found, hfound, rfl⟩ := List.mem_map.1 hname
  exact List.mem_map_of_mem ((mem_ancestors_iff hfound).2 (.tail' hway hstep))

end Repository

/-! ### The promise -/

namespace Conformance

open Repository (specializing)

variable {r : Repository}

/-- Where no check fails, the roles that an element has on its own or may be given by name are
declared in the later vocabulary, so that none of the latter is said to be unknown there; every
entry of an element adds what it stands for, except for the reference to the shared attributes where
there is no such group; and in both versions the ancestors of a role go through every name that the
role or an ancestor specializes. -/
theorem references_resolve (h : (report r).allPassed = true) :
    (∀ {ε : Type} [MarkupElement ε] (e : ε),
      (∀ role, r.implicitRole? e = some role → role ∈ r.document.roleNames .v12) ∧
      ∀ roles, r.permission e = .only roles → ∀ role ∈ roles,
        role ∈ r.document.roleNames .v12 ∧ r.verifiedRole .v12 e ≠ .error (.unknown role)) ∧
    (∀ e ∈ r.document.elements, ∃ attributes names, r.attributes? e.name = some attributes ∧
      Extends r ((r.sharedAttributes e).map (·.name)) e.attributes names ∧
      attributes.map (·.name) =
        names ++ (r.groupAttributes AttributeEntry.extensionGroup).map (·.name)) ∧
    ∀ version, ∀ role ∈ (r.aria version).allRoles,
      (r.ancestors version role.name).map (·.name) = role.generalization ++
        (role.generalization.flatMap fun parent => (r.ancestors version parent).map (·.name)) ∧
      ∀ child ∈ role :: r.ancestors version role.name, ∀ parent ∈ child.generalization,
        parent ∈ (r.ancestors version role.name).map (·.name) := by
  have hconforms : r.document.Conforms := all_passed_iff.1 h
  have hparents : ∀ version, ∀ role ∈ (r.aria version).allRoles, ∀ name ∈ role.generalization,
      name ∈ r.document.roleNames version := by
    intro version role hrole name hname
    refine (hconforms.roles version).roles role hrole name ?_
    exact List.mem_append_left _ (List.mem_append_left _ hname)
  refine ⟨?_, ?_, ?_⟩
  · intro ε _ e
    refine ⟨fun role => Repository.implicit_role?_declared hconforms.elementRoles, ?_⟩
    intro roles hroles role hrole
    have hdeclared := Repository.permission_declared hconforms.elementRoles hroles role hrole
    exact ⟨hdeclared, fun hunknown => Repository.not_declared_of_unknown hunknown hdeclared⟩
  · intro e he
    exact attributes?_of_groups_defined hconforms.groups he
  · intro version role hrole
    refine ⟨Repository.map_name_ancestors hrole (hparents version role hrole), ?_⟩
    intro child hchild parent hparent
    exact Repository.mem_names_ancestors (hparents version) hrole hchild hparent

/-- An anchor, which is a link and may be a button or a symbol. Its attributes are shared ones,
those of a group, and its own. -/
def anchor : ElementDef where
  name := "a"
  attributes := [.group AttributeEntry.globalReference, .group "#HTMLLinkAttrs",
    .single { name := "href" }]
  implicitRole := some (.of "link")
  permittedRoles := some { base := .only ["button", "symbol"] }

/-- An area, which is a link and may be a button where it leads somewhere. -/
def area : ElementDef where
  name := "area"
  implicitRole := some (ImplicitRole.when {} "[href]" "link")
  permittedRoles := some (PermittedRoles.when { base := .none } "[href]" (.only ["button"]))

/-- A document that describes both. -/
def linkDocument : Document where
  definitions := {
    attributeGroups := ⟨[
      (AttributeEntry.htmlGlobalGroup, [{ name := "id" }]),
      ("#HTMLLinkAttrs", [{ name := "target" }])], by decide⟩
    aria := { v12 := {
      roles := [specializing "structure" [], specializing "img" ["structure"],
        specializing "link" [], specializing "button" []]
      graphicsRoles := [specializing "symbol" ["img"]] } } }
  elements := [anchor, area]

/-- The anchor may be a link, a button or a symbol. -/
theorem permission_anchor (h : r.document = linkDocument) :
    r.permission (Tree.Element.named "a") = .only ["link", "button", "symbol"] := by
  have hanchor : anchor ∈ r.document.elements := h ▸ List.mem_cons_self
  have hdefinition : r.definition? (Tree.Element.named "a") = some anchor :=
    Repository.element?_eq_some_iff.2 ⟨hanchor, rfl⟩
  rw [Repository.permission, Repository.implicitRole?, hdefinition]
  decide +kernel

/-- The list of the anchor has the shared attribute, the one of the group and its own. -/
theorem names_of_extends_anchor (h : r.document = linkDocument) {names : List String}
    (hextends : Extends r ((r.sharedAttributes anchor).map (·.name)) anchor.attributes names) :
    names = ["id", "target", "href"] := by
  have hshared : (r.sharedAttributes anchor).map (·.name) = ["id"] := by
    rw [Repository.sharedAttributes, Repository.groupAttributes, Repository.group?_of_document h]
    decide
  have hglobal : r.group? AttributeEntry.globalReference = none := by
    rw [Repository.group?_of_document h]
    decide
  have hlink : r.group? "#HTMLLinkAttrs" = some [{ name := "target" }] := by
    rw [Repository.group?_of_document h]
    decide
  rw [hshared] at hextends
  -- the three entries can be read in one way only
  cases hextends with
  | group _ _ _ _ _ hsome =>
      rw [hglobal] at hsome
      cases hsome
  | shared _ _ _ _ _ _ hrest =>
      cases hrest with
      | shared _ _ _ _ _ hnone =>
          rw [hlink] at hnone
          cases hnone
      | group _ _ _ _ _ hsome hrest =>
          rw [hlink] at hsome
          cases hsome
          cases hrest with
          | own _ _ _ _ hrest =>
              cases hrest
              decide

/-- An anchor may be a link, a button or a symbol, which are known roles; two other roles are above
the symbol, and no attribute of the anchor is left out. -/
theorem references_resolve_of_anchor :
    ∃ r, Repository.ofDocument linkDocument = .ok r ∧ (report r).allPassed = true ∧
      (∀ role ∈ ["link", "button", "symbol"],
        r.verifiedRole .v12 (Tree.Element.named "a") ≠ .error (.unknown role)) ∧
      (r.ancestors .v12 "symbol").map (·.name) = ["img", "structure"] ∧
      ∃ attributes, r.attributes? "a" = some attributes ∧
        attributes.map (·.name) = ["id", "target", "href"] := by
  obtain ⟨r, hr⟩ := Repository.exists_of_document_iff.2
    (show linkDocument.defect? = none by cbv)
  have hdocument := Repository.document_of_ok hr
  have hpassed : (report r).allPassed = true := by
    rw [all_passed_iff, hdocument]
    decide +kernel
  obtain ⟨hroles, hattributes, hancestors⟩ := references_resolve hpassed
  refine ⟨r, hr, hpassed, ?_, ?_, ?_⟩
  · intro role hrole
    exact ((hroles _).2 _ (permission_anchor hdocument) role hrole).2
  · have hparents : ∀ name parents,
        specializing name parents ∈ (linkDocument.aria .v12).allRoles →
        (r.ancestors .v12 name).map (·.name) =
          parents ++ parents.flatMap fun parent => (r.ancestors .v12 parent).map (·.name) := by
      intro name parents hrole
      refine (hancestors .v12 (specializing name parents) ?_).1
      rwa [Repository.aria, hdocument]
    rw [hparents "symbol" ["img"] (by decide), List.flatMap_singleton,
      hparents "img" ["structure"] (by decide), List.flatMap_singleton,
      hparents "structure" [] (by decide)]
    rfl
  · have hanchor : anchor ∈ r.document.elements := hdocument ▸ List.mem_cons_self
    obtain ⟨attributes, names, hfound, hextends, hnames⟩ := hattributes anchor hanchor
    have hextension : r.groupAttributes AttributeEntry.extensionGroup = [] := by
      rw [Repository.groupAttributes, Repository.group?_of_document hdocument]
      decide
    rw [hextension, names_of_extends_anchor hdocument hextends] at hnames
    exact ⟨attributes, hfound, hnames⟩

end Conformance

end MarkupSemantics
