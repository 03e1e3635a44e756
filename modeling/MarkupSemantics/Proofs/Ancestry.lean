import MarkupSemantics.Proofs.Acceptance
import MarkupSemantics.Proofs.RoleChains
import MarkupSemantics.Rules.RoleAncestry

/-!
# The ancestors of a role, counted

`Unfolds` is the recursion over parents as it stands, without a measure: on a vocabulary with a
cycle it has no end. In an accepted document it ends for every name, and its result is
`Repository.ancestors`. The main statement is `ancestors_of_accepted`: parents come before the
ancestors of each parent, and a role occurs once for every chain of positions that leads to it.
-/

namespace MarkupSemantics

open Aria (Role Vocabulary)

namespace Ancestry

mutual
/-- `Unfolds v name closure` says the recursion over the parents of `name` ends with `closure`: the
parents of the role, and then what the recursion gives for each parent. -/
inductive Unfolds (v : Vocabulary) : String → List Role → Prop where
  | undeclared (name) : v.role? name = none → Unfolds v name []
  | declared (name role closure) :
      v.role? name = some role → UnfoldsAll v (parentsOf v role) closure →
      Unfolds v name (parentsOf v role ++ closure)

/-- `UnfoldsAll v parents closure` says the recursion ends for each of `parents`, and `closure` is
what it gives for one after the other. -/
inductive UnfoldsAll (v : Vocabulary) : List Role → List Role → Prop where
  | nil : UnfoldsAll v [] []
  | cons (parent parents closure closures) :
      Unfolds v parent.name closure → UnfoldsAll v parents closures →
      UnfoldsAll v (parent :: parents) (closure ++ closures)
end

end Ancestry

namespace Repository

open Ancestry

variable {r : Repository} {version : Aria.Version} {name : String} {role : Role}

/-- What is not declared has no ancestors. -/
theorem ancestors_eq_nil (h : r.role? version name = none) : r.ancestors version name = [] := by
  rw [ancestors]
  split
  · rfl
  · rename_i found hfound
    rw [h] at hfound
    cases hfound

/-- The ancestors of a role are its parents and then the ancestors of each parent. -/
theorem ancestors_eq (h : r.role? version name = some role) :
    r.ancestors version name = r.parents version role ++
      (r.parents version role).flatMap fun parent => r.ancestors version parent.name := by
  rw [ancestors]
  split
  · rename_i hnone
    rw [h] at hnone
    cases hnone
  · rename_i found hfound
    rw [h] at hfound
    cases hfound
    simp

/-- What holds of a name as soon as it holds of the parents of the role holds of every name. -/
theorem lineage_induction (r : Repository) (version : Aria.Version) {motive : String → Prop}
    (undeclared : ∀ name, r.role? version name = none → motive name)
    (declared : ∀ name role, r.role? version name = some role →
      (∀ parent ∈ r.parents version role, motive parent.name) → motive name)
    (name : String) : motive name := by
  induction name using (r.acyclic version).induction with
  | _ name ih =>
      cases hrole : r.role? version name with
      | none => exact undeclared name hrole
      | some role =>
          refine declared name role hrole fun parent hparent => ih parent.name ?_
          exact is_parent_of_mem_parents hrole hparent

/-! ### The recursion ends -/

/-- The ancestors of several parents unfold one parent after the other, if this is so for each of
them. -/
theorem unfolds_all_iff {parents : List Role} (closure : List Role)
    (h : ∀ parent ∈ parents, ∀ closure,
      Unfolds (r.aria version) parent.name closure ↔ closure = r.ancestors version parent.name) :
    UnfoldsAll (r.aria version) parents closure ↔
      closure = parents.flatMap fun parent => r.ancestors version parent.name := by
  induction parents generalizing closure with
  | nil =>
      constructor
      · rintro ⟨⟩
        rfl
      · rintro rfl
        exact .nil
  | cons parent parents ih =>
      have hparent := h parent List.mem_cons_self
      have hparents := fun {closure} =>
        ih closure fun other hother => h other (List.mem_cons_of_mem _ hother)
      rw [List.flatMap_cons]
      constructor
      · intro hall
        cases hall with
        | cons _ _ closure closures hfirst hrest =>
            rw [(hparent closure).1 hfirst, hparents.1 hrest]
      · rintro rfl
        exact .cons _ _ _ _ ((hparent _).2 rfl) (hparents.2 rfl)

/-- The recursion over parents ends for every name, and with nothing but the ancestors. -/
theorem unfolds_iff {closure : List Role} :
    Unfolds (r.aria version) name closure ↔ closure = r.ancestors version name := by
  induction name using lineage_induction r version generalizing closure with
  | undeclared name hnone =>
      rw [ancestors_eq_nil hnone]
      constructor
      · intro h
        cases h with
        | undeclared => rfl
        | declared _ role closure hrole =>
            exact absurd (hrole.symm.trans hnone) (by simp)
      · rintro rfl
        exact .undeclared name hnone
  | declared name role hrole ih =>
      have hall := fun {closure} =>
        unfolds_all_iff closure fun parent hparent closure => ih parent hparent
      rw [ancestors_eq hrole]
      constructor
      · intro h
        cases h with
        | undeclared _ hnone => exact absurd (hrole.symm.trans hnone) (by simp)
        | declared _ found closure hfound hparents =>
            obtain rfl := Option.some.inj (hrole.symm.trans hfound)
            rw [hall.1 hparents]
            rfl
      · rintro rfl
        exact .declared name role _ hrole (hall.2 rfl)

/-! ### Which roles are ancestors -/

/-- A step to a declared role leads to a parent. -/
theorem exists_parent_of_specializes {child parent : String}
    (h : r.document.Specializes version child parent) :
    ∃ role found, r.role? version child = some role ∧ found ∈ r.parents version role ∧
      found.name = parent := by
  obtain ⟨role, hrole, hlisted, hdeclared⟩ :=
    (Document.specializes_iff_is_parent (r.roles_distinct version)).1 h
  obtain ⟨found, hfound⟩ := Option.isSome_iff_exists.1 hdeclared
  exact ⟨role, found, hrole, List.mem_filterMap.2 ⟨parent, hlisted, hfound⟩,
    Aria.name_of_find_role? hfound⟩

/-- A role specializes each of its parents. -/
theorem specializes_of_mem_parents {parent : Role} (hrole : r.role? version name = some role)
    (hparent : parent ∈ r.parents version role) :
    r.document.Specializes version name parent.name :=
  (Document.specializes_iff_is_parent (r.roles_distinct version)).2
    (is_parent_of_mem_parents hrole hparent)

/-- The roles with one name are one role. -/
theorem eq_of_mem_all_roles {first second : Role} (hfirst : first ∈ (r.aria version).allRoles)
    (hsecond : second ∈ (r.aria version).allRoles) (h : first.name = second.name) :
    first = second :=
  List.inj_on_of_nodup_map (r.roles_distinct version) hfirst hsecond h

/-- The parents of a role are declared. -/
theorem mem_all_roles_of_mem_parents {parent : Role} (h : parent ∈ r.parents version role) :
    parent ∈ (r.aria version).allRoles := by
  obtain ⟨_, _, hfound⟩ := List.mem_filterMap.1 h
  exact List.mem_of_find?_eq_some hfound

/-- An ancestor is declared and reached by one or more steps. -/
theorem reached_of_mem_ancestors {ancestor : Role} (h : ancestor ∈ r.ancestors version name) :
    ancestor ∈ (r.aria version).allRoles ∧
      Relation.TransGen (r.document.Specializes version) name ancestor.name := by
  induction name using lineage_induction r version with
  | undeclared name hnone =>
      rw [ancestors_eq_nil hnone] at h
      cases h
  | declared name role hrole ih =>
      rw [ancestors_eq hrole, List.mem_append, List.mem_flatMap] at h
      rcases h with hparent | ⟨parent, hparent, hancestor⟩
      · exact ⟨mem_all_roles_of_mem_parents hparent,
          .single (specializes_of_mem_parents hrole hparent)⟩
      · obtain ⟨hdeclared, hreached⟩ := ih parent hparent hancestor
        exact ⟨hdeclared, .head (specializes_of_mem_parents hrole hparent) hreached⟩

/-- A declared role is an ancestor exactly when it is reached by one or more steps. -/
theorem mem_ancestors_iff {ancestor : Role} (hdeclared : ancestor ∈ (r.aria version).allRoles) :
    ancestor ∈ r.ancestors version name ↔
      Relation.TransGen (r.document.Specializes version) name ancestor.name := by
  refine ⟨fun h => (reached_of_mem_ancestors h).2, fun h => ?_⟩
  -- from the head, so that what is left of the way starts at a parent
  induction h using Relation.TransGen.head_induction_on with
  | single hstep =>
      obtain ⟨role, parent, hrole, hparent, hname⟩ := exists_parent_of_specializes hstep
      have hsame : parent = ancestor :=
        eq_of_mem_all_roles (mem_all_roles_of_mem_parents hparent) hdeclared hname
      rw [ancestors_eq hrole]
      exact List.mem_append_left _ (hsame ▸ hparent)
  | head hstep _ ih =>
      obtain ⟨role, parent, hrole, hparent, rfl⟩ := exists_parent_of_specializes hstep
      rw [ancestors_eq hrole]
      exact List.mem_append_right _ (List.mem_flatMap.2 ⟨parent, hparent, ih⟩)

/-- No role is among its own ancestors. -/
theorem name_ne_of_mem_ancestors {ancestor : Role} (h : ancestor ∈ r.ancestors version name) :
    ancestor.name ≠ name := by
  rintro rfl
  exact r.not_has_role_cycle version ⟨_, (reached_of_mem_ancestors h).2⟩

/-! ### How often they occur -/

/-- The ancestors of a role are the ends of the chains that start there. -/
theorem exists_enumerates (r : Repository) (version : Aria.Version) (name : String) :
    ∃ all, Enumerates (r.aria version) name all (r.ancestors version name) := by
  induction name using lineage_induction r version with
  | undeclared name hnone =>
      rw [ancestors_eq_nil hnone]
      exact ⟨[], enumerates_undeclared hnone⟩
  | declared name role hrole ih =>
      -- the chains of each parent depend on the proof that it is one; `choose!` drops the proof
      choose! sub hsub using ih
      rw [ancestors_eq hrole]
      exact ⟨_, enumerates_declared hrole hsub⟩

/-- In an accepted document the recursion over parents ends for every name, declared or not. The
ancestors of a declared role are its declared parents in their order and then the ancestors of each;
an undeclared name has none. They are declared roles other than the role itself, and a declared role
occurs as often among them as there are chains that lead to it, so it occurs exactly when it is
reached by one or more steps. -/
theorem ancestors_of_accepted {d : Document} (h : ofDocument d = .ok r) (version : Aria.Version)
    (name : String) :
    (∀ closure, Unfolds (d.aria version) name closure ↔ closure = r.ancestors version name) ∧
    (name ∉ d.roleNames version → r.ancestors version name = []) ∧
    (∀ role ∈ (d.aria version).allRoles, role.name = name →
      r.ancestors version name = parentsOf (d.aria version) role ++
        (parentsOf (d.aria version) role).flatMap fun parent => r.ancestors version parent.name) ∧
    (∀ ancestor ∈ (d.aria version).allRoles,
      (chains (d.aria version) name ancestor).encard = (r.ancestors version name).count ancestor ∧
      (ancestor ∈ r.ancestors version name ↔
        Relation.TransGen (d.Specializes version) name ancestor.name)) ∧
    ∀ ancestor ∈ r.ancestors version name,
      ancestor ∈ (d.aria version).allRoles ∧ ancestor.name ≠ name := by
  obtain rfl := document_of_ok h
  refine ⟨fun _ => unfolds_iff, ?_, ?_, ?_, ?_⟩
  · intro hname
    refine ancestors_eq_nil (Option.not_isSome_iff_eq_none.1 fun hsome => hname ?_)
    exact Aria.find_role?_is_some_iff.1 hsome
  · rintro role hrole rfl
    have hfound : r.role? version role.name = some role :=
      (Aria.find_role?_eq_some_iff (r.roles_distinct version)).2 ⟨hrole, rfl⟩
    exact ancestors_eq hfound
  · intro ancestor hancestor
    obtain ⟨all, hall⟩ := exists_enumerates r version name
    exact ⟨hall.encard_chains, mem_ancestors_iff hancestor⟩
  · intro ancestor hancestor
    exact ⟨(reached_of_mem_ancestors hancestor).1, name_ne_of_mem_ancestors hancestor⟩

/-- `specializing name parents` is a role with nothing but a name and the roles it specializes. -/
def specializing (name : String) (parents : List String) : Role :=
  { name := name, generalization := parents }

/-- A document in which the role `a` lists one of its two parents twice, next to a name that is not
declared, and both parents specialize the same graphics role. -/
def diamond : Document where
  definitions := { aria := { v12 := {
    roles := [specializing "a" ["b", "c", "ghost", "b"], specializing "b" ["d"],
      specializing "c" ["d"]]
    graphicsRoles := [specializing "d" []] } } }

/-- In `diamond`, three chains lead to the shared parent, which occurs three times. -/
theorem ancestors_of_diamond :
    ∃ r, ofDocument diamond = .ok r ∧
      (r.ancestors .v12 "a").map (·.name) = ["b", "c", "b", "d", "d", "d"] ∧
      (chains (diamond.aria .v12) "a" (specializing "d" [])).encard = 3 := by
  obtain ⟨r, h⟩ := exists_of_document_iff.2 (show diamond.defect? = none by cbv)
  have hspec := ancestors_of_accepted h .v12
  have hunfold : ∀ name parents found,
      specializing name parents ∈ (diamond.aria .v12).allRoles →
      parentsOf (diamond.aria .v12) (specializing name parents) = found →
      r.ancestors .v12 name =
        found ++ found.flatMap fun parent => r.ancestors .v12 parent.name := by
    rintro name parents _ hrole rfl
    exact (hspec name).2.2.1 _ hrole rfl
  have hd : r.ancestors .v12 "d" = [] := hunfold "d" [] [] (by decide) (by decide)
  have hb : r.ancestors .v12 "b" = [specializing "d" []] := by
    rw [hunfold "b" ["d"] [specializing "d" []] (by decide) (by decide)]
    simp [specializing, hd]
  have hc : r.ancestors .v12 "c" = [specializing "d" []] := by
    rw [hunfold "c" ["d"] [specializing "d" []] (by decide) (by decide)]
    simp [specializing, hd]
  have ha : r.ancestors .v12 "a" =
      [specializing "b" ["d"], specializing "c" ["d"], specializing "b" ["d"],
        specializing "d" [], specializing "d" [], specializing "d" []] := by
    rw [hunfold "a" ["b", "c", "ghost", "b"]
      [specializing "b" ["d"], specializing "c" ["d"], specializing "b" ["d"]]
      (by decide) (by decide)]
    simp [specializing, hb, hc]
  refine ⟨r, h, by rw [ha]; rfl, ?_⟩
  rw [((hspec "a").2.2.2.1 (specializing "d" []) (by decide)).1, ha]
  decide

end Repository

end MarkupSemantics
