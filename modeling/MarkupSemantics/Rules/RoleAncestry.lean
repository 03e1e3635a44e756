import MarkupSemantics.Repository

/-!
# The ancestors of a role

The roles that a role specializes, directly or not. A role that can be reached in several ways
occurs once for each of them. The recursion ends because the parent relation of a repository is well
founded.
-/

namespace MarkupSemantics

/-- The names of roles of one version, ordered by the parent relation. -/
abbrev Lineage (_r : Repository) (_version : Aria.Version) :=
  String

instance {r : Repository} {version : Aria.Version} : WellFoundedRelation (Lineage r version) where
  rel := Aria.IsParent (r.aria version).allRoles
  wf := r.acyclic version

namespace Repository

/-- `r.parents version role` lists the declared roles that `role` specializes, in their order. -/
def parents (r : Repository) (version : Aria.Version) (role : Aria.Role) : List Aria.Role :=
  role.generalization.filterMap (r.role? version)

/-- The name of a parent is below the name of its role. -/
theorem is_parent_of_mem_parents {r : Repository} {version : Aria.Version} {name : String}
    {role parent : Aria.Role} (hrole : r.role? version name = some role)
    (hparent : parent ∈ r.parents version role) :
    Aria.IsParent (r.aria version).allRoles parent.name name := by
  obtain ⟨given, hgiven, hfound⟩ := List.mem_filterMap.1 hparent
  have hname : parent.name = given := Aria.name_of_find_role? hfound
  refine ⟨role, hrole, hname ▸ hgiven, ?_⟩
  rw [hname]
  exact Option.isSome_iff_exists.2 ⟨parent, hfound⟩

/-- `r.ancestors version name` lists the parents of the role `name` and then the ancestors of each
parent in turn. -/
def ancestors (r : Repository) (version : Aria.Version) (name : Lineage r version) :
    List Aria.Role :=
  match _hrole : r.role? version name with
  | none => []
  | some role =>
    let parents := r.parents version role
    parents ++ parents.attach.flatMap fun parent => r.ancestors version parent.1.name
termination_by name
decreasing_by
  exact is_parent_of_mem_parents _hrole parent.2

end Repository

/-- A role and its ancestors. -/
structure RoleSummary where
  /-- The role. -/
  role : Aria.Role
  /-- Its ancestors, once for every way to reach them. -/
  ancestors : List Aria.Role

/-- `r.roleSummary? version name` is the role called `name` with its ancestors. -/
def Repository.roleSummary? (r : Repository) (version : Aria.Version) (name : String) :
    Option RoleSummary :=
  (r.role? version name).map fun role => ⟨role, r.ancestors version name⟩

end MarkupSemantics
