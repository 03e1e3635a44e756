import Mathlib.Data.List.Permutation
import MarkupSemantics.Proofs.Ancestry
import MarkupSemantics.Rules.AttributeList
import MarkupSemantics.Rules.ElementRole

/-!
# The order of declarations

A document lists its elements and the roles of each version in some order, and a look-up takes the
first entry with a name. In an accepted document there is only one such entry, so the order decides
nothing: it may change, and roles may move between the core roles and those of the graphics module.
The main statement is `answers_of_reordered`. A role occurs in a list of ancestors once for every
way to it, and the order of that list comes from the roles themselves, so it is kept too.
-/

namespace MarkupSemantics

namespace Document

/-- `d.Reordered d'` says `d'` is `d` with its elements in another order and, in each version, its
roles in another order or in the other one of the two lists of roles. -/
structure Reordered (d d' : Document) : Prop where
  /-- The descriptions that are cited are the same. -/
  cites : d'.cites = d.cites
  /-- The groups of attributes are the same. -/
  attributeGroups : d'.definitions.attributeGroups = d.definitions.attributeGroups
  /-- The categories of content are the same. -/
  contentModels : d'.definitions.contentModels = d.definitions.contentModels
  /-- The states and properties are the same. -/
  properties : ∀ version, (d'.aria version).properties = (d.aria version).properties
  /-- The roles of a version are the same, core roles and graphics roles taken together. -/
  roles : ∀ version, (d'.aria version).allRoles.Perm (d.aria version).allRoles
  /-- The elements are the same. -/
  elements : d'.elements.Perm d.elements

variable {d d' : Document} {version : Aria.Version}

namespace Reordered

/-! ### Acceptance -/

/-- The names of elements are the same in another order. -/
theorem element_names_perm (h : d.Reordered d') : d'.elementNames.Perm d.elementNames :=
  h.elements.map _

/-- The names of roles are the same in another order. -/
theorem role_names_perm (h : d.Reordered d') (version : Aria.Version) :
    (d'.roleNames version).Perm (d.roleNames version) :=
  (h.roles version).map _

/-- What specializes a role in the other order does so in the first. -/
theorem specializes_of_specializes (h : d.Reordered d') {child parent : String}
    (hstep : d'.Specializes version child parent) : d.Specializes version child parent := by
  obtain ⟨⟨role, hrole, hname, hlisted⟩, hdeclared⟩ := hstep
  have hmem : role ∈ (d.aria version).allRoles := (h.roles version).mem_iff.1 hrole
  exact ⟨⟨role, hmem, hname, hlisted⟩, (h.role_names_perm version).mem_iff.1 hdeclared⟩

/-- A cycle in the other order is one in the first. -/
theorem has_role_cycle_of_has_role_cycle (h : d.Reordered d')
    (hcycle : d'.HasRoleCycle version) : d.HasRoleCycle version := by
  obtain ⟨name, hname⟩ := hcycle
  exact ⟨name, hname.lift id fun _ _ => h.specializes_of_specializes⟩

/-- The order of declarations brings no defect. -/
theorem defect?_eq_none (h : d.Reordered d') (haccepted : d.defect? = none) :
    d'.defect? = none := by
  rw [defect?_eq_none_iff] at haccepted ⊢
  obtain ⟨helements, hroles⟩ := haccepted
  refine ⟨h.element_names_perm.nodup_iff.2 helements, fun version => ?_⟩
  obtain ⟨hnames, hacyclic⟩ := hroles version
  refine ⟨(h.role_names_perm version).nodup_iff.2 hnames, fun hcycle => hacyclic ?_⟩
  exact h.has_role_cycle_of_has_role_cycle hcycle

end Reordered

end Document

namespace Repository

variable {r r' : Repository} {version : Aria.Version}

/-! ### Look-ups -/

/-- A look-up of an element does not depend on the order. -/
theorem element?_of_reordered (h : r.document.Reordered r'.document) (name : String) :
    r'.element? name = r.element? name := by
  ext e
  rw [element?_eq_some_iff, element?_eq_some_iff, h.elements.mem_iff]

/-- A look-up of a role does not depend on the order. -/
theorem role?_of_reordered (h : r.document.Reordered r'.document) (version : Aria.Version) :
    r'.role? version = r.role? version := by
  funext name
  ext role
  rw [role?_eq_some_iff, role?_eq_some_iff]
  exact and_congr_left fun _ => (h.roles version).mem_iff

/-- A look-up of a group does not depend on the order. -/
theorem group?_of_reordered (h : r.document.Reordered r'.document) : r'.group? = r.group? := by
  funext name
  rw [group?, group?, h.attributeGroups]

/-! ### The ancestors of a role -/

/-- The parents of a role do not depend on the order. -/
theorem parents_of_reordered (h : r.document.Reordered r'.document) (role : Aria.Role) :
    r'.parents version role = r.parents version role := by
  rw [parents, parents, role?_of_reordered h]

/-- The ancestors of a role come from the roles and not from their order in the document. -/
theorem ancestors_of_reordered (h : r.document.Reordered r'.document) (name : String) :
    r'.ancestors version name = r.ancestors version name := by
  have hsame : r'.role? version = r.role? version := role?_of_reordered h version
  -- along the parents in `r`, which are those in `r'`
  induction name using lineage_induction r version with
  | undeclared name hnone =>
      have hnone' : r'.role? version name = none := by rw [hsame, hnone]
      rw [ancestors_eq_nil hnone, ancestors_eq_nil hnone']
  | declared name role hrole ih =>
      have hrole' : r'.role? version name = some role := by rw [hsame, hrole]
      rw [ancestors_eq hrole, ancestors_eq hrole', parents_of_reordered h]
      exact congrArg _ (List.flatMap_congr fun parent hparent => ih parent hparent)

/-- The summary of a role does not depend on the order. -/
theorem role_summary?_of_reordered (h : r.document.Reordered r'.document) (name : String) :
    r'.roleSummary? version name = r.roleSummary? version name := by
  rw [roleSummary?, roleSummary?, role?_of_reordered h, ancestors_of_reordered h]

/-! ### The attributes and the roles of an element -/

/-- The attributes of an element do not depend on the order. -/
theorem attributes?_of_reordered (h : r.document.Reordered r'.document) (name : String) :
    r'.attributes? name = r.attributes? name := by
  have hgroups : r'.groupAttributes = r.groupAttributes := by
    funext group
    rw [groupAttributes, groupAttributes, group?_of_reordered h]
  have hentries : r'.addEntry = r.addEntry := by
    funext attributes entry
    cases entry with
    | group name => rw [addEntry, addEntry, hgroups]
    | single definition => rfl
  have hlists : r'.attributesOf = r.attributesOf := by
    funext e
    rw [attributesOf, attributesOf, sharedAttributes, sharedAttributes, hentries, hgroups]
  rw [attributes?, attributes?, element?_of_reordered h, hlists]

section Element

variable {ε : Type} [MarkupElement ε]

/-- The definition of an element does not depend on the order. -/
theorem definition?_of_reordered (h : r.document.Reordered r'.document) (e : ε) :
    r'.definition? e = r.definition? e :=
  element?_of_reordered h (MarkupElement.name e)

/-- The role that an element has on its own does not depend on the order. -/
theorem implicit_role?_of_reordered (h : r.document.Reordered r'.document) (e : ε) :
    r'.implicitRole? e = r.implicitRole? e := by
  rw [implicitRole?, implicitRole?, definition?_of_reordered h]

/-- What an element may ask for does not depend on the order. -/
theorem permission_of_reordered (h : r.document.Reordered r'.document) (e : ε) :
    r'.permission e = r.permission e := by
  rw [permission, permission, definition?_of_reordered h, implicit_role?_of_reordered h]

/-- The role that an element asks for does not depend on the order. -/
theorem computed_role?_of_reordered (h : r.document.Reordered r'.document) (e : ε) :
    r'.computedRole? e = r.computedRole? e := by
  rw [computedRole?, computedRole?, implicit_role?_of_reordered h]

/-- The verdict on the role of an element does not depend on the order. -/
theorem verified_role_of_reordered (h : r.document.Reordered r'.document) (e : ε) :
    r'.verifiedRole version e = r.verifiedRole version e := by
  rw [verifiedRole, verifiedRole, computed_role?_of_reordered h, role?_of_reordered h,
    permission_of_reordered h]

end Element

/-! ### The order decides nothing -/

/-- A document that is accepted is also accepted with its elements in another order and its roles in
another order or in the other list of their version. It then gives the same elements, roles, role
summaries, ancestors in their order and number, attributes, permitted roles and verdicts on roles,
for every name and every element of a tree. -/
theorem answers_of_reordered {d d' : Document} (hr : ofDocument d = .ok r)
    (h : d.Reordered d') :
    ∃ r', ofDocument d' = .ok r' ∧
      (∀ name, r'.element? name = r.element? name) ∧
      (∀ version name, r'.role? version name = r.role? version name) ∧
      (∀ version name, r'.roleSummary? version name = r.roleSummary? version name) ∧
      (∀ version name, r'.ancestors version name = r.ancestors version name) ∧
      (∀ name, r'.attributes? name = r.attributes? name) ∧
      ∀ (ε : Type) [MarkupElement ε] (e : ε),
        r'.permission e = r.permission e ∧
        ∀ version, r'.verifiedRole version e = r.verifiedRole version e := by
  have haccepted : d.defect? = none := exists_of_document_iff.1 ⟨r, hr⟩
  obtain ⟨r', hr'⟩ := exists_of_document_iff.2 (h.defect?_eq_none haccepted)
  obtain rfl := document_of_ok hr
  obtain rfl := document_of_ok hr'
  refine ⟨r', hr', element?_of_reordered h, ?_, fun _ => role_summary?_of_reordered h,
    fun _ => ancestors_of_reordered h, attributes?_of_reordered h, ?_⟩
  · intro version name
    rw [role?_of_reordered h]
  · intro ε _ e
    exact ⟨permission_of_reordered h e, fun _ => verified_role_of_reordered h e⟩

/-- A document with two elements and three roles in a row, the last one from the graphics module. -/
def threeInARow : Document where
  definitions := { aria := { v12 := {
    roles := [specializing "link" ["command"], specializing "command" ["widget"]]
    graphicsRoles := [specializing "widget" []] } } }
  elements := [(ElementDef.named "a").withImplicitRole (.of "link"), ElementDef.named "p"]

/-- `threeInARow` with the elements the other way round and two roles in the other list. -/
def rearranged : Document where
  definitions := { aria := { v12 := {
    roles := [specializing "widget" [], specializing "command" ["widget"]]
    graphicsRoles := [specializing "link" ["command"]] } } }
  elements := [ElementDef.named "p", (ElementDef.named "a").withImplicitRole (.of "link")]

/-- The rearranged document is the other one in another order. -/
theorem reordered_rearranged : threeInARow.Reordered rearranged where
  cites := rfl
  attributeGroups := rfl
  contentModels := rfl
  properties := by
    intro version
    cases version <;> rfl
  roles := by
    intro version
    cases version with
    | v11 => exact .nil
    | v12 => exact List.isPerm_iff.1 (by decide)
  elements := .swap _ _ _

/-- Rearranged, the three roles are found as before and have the same ancestors. -/
theorem answers_of_rearranged :
    ∃ r r', ofDocument threeInARow = .ok r ∧ ofDocument rearranged = .ok r' ∧
      r'.role? .v12 "link" = some (specializing "link" ["command"]) ∧
      r'.ancestors .v12 "link" = r.ancestors .v12 "link" := by
  obtain ⟨r, hr⟩ := exists_of_document_iff.2 (show threeInARow.defect? = none by cbv)
  obtain ⟨r', hr', _, hroles, _, hancestors, _⟩ := answers_of_reordered hr reordered_rearranged
  refine ⟨r, r', hr, hr', ?_, hancestors .v12 "link"⟩
  rw [hroles, role?_eq_some_iff, aria, document_of_ok hr]
  decide

end Repository

end MarkupSemantics
