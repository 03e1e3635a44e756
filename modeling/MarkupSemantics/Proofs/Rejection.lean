import MarkupSemantics.Proofs.Acceptance

/-!
# Which defect is reported

A document without a repository is rejected for its first defect. `IsFirstRepeat` says which of
several names is the first to occur again, `IsRoleCycle` what a reported cycle is, in terms of the
lists of the document. The main statement is `first_defect_of_rejected`: elements come before roles,
the earlier version before the later one, and a repeated role before a cycle.
-/

namespace MarkupSemantics

variable {d : Document} {version : Aria.Version} {defect : Defect} {name : String}

/-- `IsFirstRepeat names name` says `name` occurs again among `names`, and no other name does so
before. -/
def IsFirstRepeat (names : List String) (name : String) : Prop :=
  ∃ before after, names = before ++ name :: after ∧ before.Nodup ∧ name ∈ before

/-- The search for a repeated name splits the names at the first one that is not new. -/
theorem exists_split_of_first_repeat? {seen names : List String}
    (h : firstRepeat? seen names = some name) :
    ∃ before after, names = before ++ name :: after ∧ before.Nodup ∧
      (∀ other ∈ before, other ∉ seen) ∧ (name ∈ before ∨ name ∈ seen) := by
  induction names generalizing seen with
  | nil => cases h
  | cons head names ih =>
      rw [firstRepeat?] at h
      split at h
      · rename_i hseen
        cases h
        exact ⟨[], names, rfl, List.nodup_nil, by simp, Or.inr (by simpa using hseen)⟩
      · rename_i hseen
        obtain ⟨before, after, rfl, hnodup, hfresh, hrepeat⟩ := ih h
        have hhead : head ∉ before := fun hmem => hfresh head hmem List.mem_cons_self
        refine ⟨head :: before, after, rfl, List.nodup_cons.2 ⟨hhead, hnodup⟩, ?_, ?_⟩
        · intro other hother
          rcases List.mem_cons.1 hother with rfl | hother
          · simpa using hseen
          · exact fun hmem => hfresh other hother (List.mem_cons_of_mem _ hmem)
        · -- the search remembers `head`, which now stands before `name`
          rcases hrepeat with hbefore | hold
          · exact Or.inl (List.mem_cons_of_mem _ hbefore)
          · rcases List.mem_cons.1 hold with rfl | hold
            · exact Or.inl List.mem_cons_self
            · exact Or.inr hold

/-- A repeated name that is found is the first one. -/
theorem is_first_repeat_of_first_repeat? {names : List String}
    (h : firstRepeat? [] names = some name) : IsFirstRepeat names name := by
  obtain ⟨before, after, hnames, hnodup, _, hrepeat⟩ := exists_split_of_first_repeat? h
  exact ⟨before, after, hnames, hnodup, hrepeat.resolve_right (by simp)⟩

/-- Names are distinct exactly if the search for a repeated one finds none. -/
theorem nodup_iff_first_repeat?_eq_none {names : List String} :
    names.Nodup ↔ firstRepeat? [] names = none := by
  simp [first_repeat?_eq_none_iff]

namespace Document

/-- `d.IsRoleCycle version cycle` says `cycle` names roles of `version`, each of which lists the
next one, and comes back to where it starts without meeting another name twice. -/
structure IsRoleCycle (d : Document) (version : Aria.Version) (cycle : List String) : Prop where
  /-- There are two names at least. -/
  two_le : 2 ≤ cycle.length
  /-- The first name is the last one. -/
  closed : cycle.head? = cycle.getLast?
  /-- After the first name, no name occurs twice. -/
  distinct : cycle.tail.Nodup
  /-- The names are those of declared roles. -/
  declared : ∀ name ∈ cycle, name ∈ d.roleNames version
  /-- Each role lists the next one among the roles it specializes. -/
  steps : cycle.IsChain fun child parent =>
    ∃ role ∈ (d.aria version).roles ++ (d.aria version).graphicsRoles,
      role.name = child ∧ parent ∈ role.generalization

/-- `d.HasRoleDefect version` says two roles of `version` share a name, or a role is reached from
itself. -/
def HasRoleDefect (d : Document) (version : Aria.Version) : Prop :=
  ¬ (d.roleNames version).Nodup ∨ d.HasRoleCycle version

/-- `d.IsRoleDefect version defect` says `defect` is what is wrong with the roles of `version`: the
first repeated name if there is one, and a cycle otherwise. -/
def IsRoleDefect (d : Document) (version : Aria.Version) (defect : Defect) : Prop :=
  (¬ (d.roleNames version).Nodup → ∃ name,
    IsFirstRepeat (d.roleNames version) name ∧ defect = .duplicateRole version name) ∧
  ((d.roleNames version).Nodup → ∃ cycle,
    d.IsRoleCycle version cycle ∧ defect = .cyclicGeneralization version cycle)

/-- A version has a defect exactly if the search for one finds it. -/
theorem has_role_defect_iff : d.HasRoleDefect version ↔ d.roleDefect? version ≠ none := by
  rw [Ne, role_defect?_eq_none_iff, HasRoleDefect, not_and_or, not_not]

/-- The names on both sides of a step are declared. -/
theorem Specializes.declared {child parent : String} (h : d.Specializes version child parent) :
    child ∈ d.roleNames version ∧ parent ∈ d.roleNames version := by
  obtain ⟨⟨role, hrole, rfl, _⟩, hparent⟩ := h
  exact ⟨List.mem_map_of_mem hrole, hparent⟩

/-- Along one or more steps, all names are declared. -/
theorem declared_of_is_chain {names : List String} (h : names.IsChain (d.Specializes version))
    (htwo : 2 ≤ names.length) : ∀ name ∈ names, name ∈ d.roleNames version := by
  match names with
  | [] => simp at htwo
  | [_] => simp at htwo
  | first :: second :: rest =>
      obtain ⟨hstep, hrest⟩ := List.isChain_cons_cons.1 h
      intro name hname
      rcases List.mem_cons.1 hname with rfl | hname
      · exact hstep.declared.1
      · cases rest with
        | nil => exact List.mem_singleton.1 hname ▸ hstep.declared.2
        | cons third rest => exact declared_of_is_chain hrest (by simp) name hname

/-- Where names are distinct, a cycle that a walk meets is a cycle of the document. -/
theorem is_role_cycle_of_survey (hnodup : (d.roleNames version).Nodup) {cycle : List String}
    (h : Aria.Hierarchy.survey (d.aria version).allRoles = .error cycle) :
    d.IsRoleCycle version cycle := by
  obtain ⟨hsteps, htwo, hclosed, hdistinct⟩ := Aria.Hierarchy.survey_error h
  have hspecializes : cycle.IsChain (d.Specializes version) :=
    hsteps.imp fun _ _ hstep => (specializes_iff_is_parent hnodup).2 hstep
  exact ⟨htwo, hclosed, hdistinct, declared_of_is_chain hspecializes htwo,
    hspecializes.imp fun _ _ hstep => hstep.1⟩

/-- What is found to be wrong with the roles of a version is wrong with them. -/
theorem is_role_defect_of_role_defect? (h : d.roleDefect? version = some defect) :
    d.IsRoleDefect version defect := by
  unfold roleDefect? at h
  split at h
  · rename_i name hrepeat
    cases h
    refine ⟨fun _ => ⟨name, is_first_repeat_of_first_repeat? hrepeat, rfl⟩, fun hnodup => ?_⟩
    rw [nodup_iff_first_repeat?_eq_none, hrepeat] at hnodup
    cases hnodup
  · rename_i hrepeat
    have hnodup := nodup_iff_first_repeat?_eq_none.2 hrepeat
    split at h
    · rename_i cycle hcycle
      cases h
      exact ⟨fun hrepeats => absurd hnodup hrepeats,
        fun _ => ⟨cycle, is_role_cycle_of_survey hnodup hcycle, rfl⟩⟩
    · cases h

/-- What is found to be wrong with a document whose elements have distinct names is wrong with its
roles, and the earlier version is looked at first. -/
theorem exists_role_defect_of_defect? (h : d.defect? = some defect)
    (hnodup : d.elementNames.Nodup) :
    ∃ version, d.HasRoleDefect version ∧ (d.HasRoleDefect .v11 → version = .v11) ∧
      d.IsRoleDefect version defect := by
  rw [defect?, nodup_iff_first_repeat?_eq_none.1 hnodup] at h
  have hfound : ∀ version, d.roleDefect? version = some defect → d.HasRoleDefect version := by
    intro version hversion
    rw [has_role_defect_iff, hversion]
    exact Option.some_ne_none defect
  rcases Option.or_eq_some_iff.1 h with h11 | ⟨h11, h12⟩
  · exact ⟨.v11, hfound .v11 h11, fun _ => rfl, is_role_defect_of_role_defect? h11⟩
  · exact ⟨.v12, hfound .v12 h12, fun hdefect => absurd h11 (has_role_defect_iff.1 hdefect),
      is_role_defect_of_role_defect? h12⟩

end Document

namespace Repository

/-- A document is rejected for the defect that is found in it. -/
theorem of_document_eq_error_iff : ofDocument d = .error defect ↔ d.defect? = some defect := by
  unfold ofDocument
  split
  · rename_i found hfound
    simp [hfound]
  · rename_i hnone
    simp [hnone]

/-- A rejected document has the defect that is reported, and it is the first one. A repeated element
name comes before everything else: the name reported is the first in the list of the elements that
occurs before. Without one, the report is about the roles of a version, the earlier one if that has
any defect, and in it a repeated name comes before a cycle. -/
theorem first_defect_of_rejected (h : ofDocument d = .error defect) :
    (¬ (d.elements.map (·.name)).Nodup → ∃ name,
      IsFirstRepeat (d.elements.map (·.name)) name ∧ defect = .duplicateElement name) ∧
    ((d.elements.map (·.name)).Nodup → ∃ version,
      d.HasRoleDefect version ∧ (d.HasRoleDefect .v11 → version = .v11) ∧
      d.IsRoleDefect version defect) := by
  rw [of_document_eq_error_iff] at h
  refine ⟨fun hrepeats => ?_, fun hnodup => Document.exists_role_defect_of_defect? h hnodup⟩
  rw [Document.defect?] at h
  split at h
  · rename_i name hrepeat
    cases h
    exact ⟨name, is_first_repeat_of_first_repeat? hrepeat, rfl⟩
  · rename_i hnone
    exact absurd (nodup_iff_first_repeat?_eq_none.2 hnone) hrepeats

/-- A document with defects in both versions. In the earlier one a walk from `a` passes a name that
is not declared and then `c`, both outside any cycle, before it comes to the cycle of `b` and a
graphics role, in which `a` has no part. In the later one two roles are called `a`. -/
def tangled : Document where
  definitions := { aria := {
    v11 := {
      roles := [{ name := "a", generalization := ["ghost", "c", "b"] },
        { name := "b", generalization := ["c", "d"] }, { name := "c" }]
      graphicsRoles := [{ name := "d", generalization := ["b"] }] }
    v12 := { roles := [{ name := "a" }, { name := "a" }] } } }

/-- In `tangled`, the cycle of the earlier version is reported, from where it closes on. -/
theorem first_defect_of_tangled :
    ofDocument tangled = .error (.cyclicGeneralization .v11 ["b", "d", "b"]) ∧
      tangled.HasRoleDefect .v12 ∧ tangled.IsRoleCycle .v11 ["b", "d", "b"] := by
  have h : ofDocument tangled = .error (.cyclicGeneralization .v11 ["b", "d", "b"]) :=
    of_document_eq_error_iff.2 (by cbv)
  have hcyclic : tangled.roleDefect? .v11 = some (.cyclicGeneralization .v11 ["b", "d", "b"]) := by
    cbv
  have hdefect : tangled.HasRoleDefect .v11 := by
    rw [Document.has_role_defect_iff, hcyclic]
    exact Option.some_ne_none _
  obtain ⟨version, _, hfirst, hroles⟩ := (first_defect_of_rejected h).2 (by decide)
  obtain rfl := hfirst hdefect
  obtain ⟨cycle, hcycle, heq⟩ := hroles.2 (by decide)
  cases heq
  exact ⟨h, Or.inl (by decide), hcycle⟩

end Repository

end MarkupSemantics
