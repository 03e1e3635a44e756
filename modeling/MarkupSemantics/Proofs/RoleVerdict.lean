import MarkupSemantics.Proofs.RolePermission

/-!
# What is wrong with the role that an element asks for

A role that is asked for must be declared, must not be abstract, and must be permitted on the
element. The first of these that fails is reported; `verdict_of_role` is the main statement. The
role that an element has on its own is not checked, and asking for that very role is always
permitted.
-/

namespace MarkupSemantics

namespace Repository

variable {ε : Type} [MarkupElement ε] {e : ε} {r : Repository} {version : Aria.Version}
  {value name : String} {role : Aria.Role}

/-- `r.IsAbstract version name` says some role of `version` is called `name` and is abstract. -/
def IsAbstract (r : Repository) (version : Aria.Version) (name : String) : Prop :=
  ∃ role ∈ (r.document.aria version).roles ++ (r.document.aria version).graphicsRoles,
    role.name = name ∧ role.isAbstract = true

/-- A name belongs to one role only, so that role decides whether the name is abstract. -/
theorem is_abstract_iff (hrole : r.role? version name = some role) :
    r.IsAbstract version name ↔ role.isAbstract = true := by
  constructor
  · rintro ⟨other, hmem, hname, habstract⟩
    have hother : r.role? version name = some other := role?_eq_some_iff.2 ⟨hmem, hname⟩
    have hsame : other = role := Option.some.inj (hother.symm.trans hrole)
    rwa [← hsame]
  · intro habstract
    obtain ⟨hmem, hname⟩ := role?_eq_some_iff.1 hrole
    exact ⟨role, hmem, hname, habstract⟩

/-- Without a `role` attribute, the role that the element has on its own is accepted. -/
theorem verified_role_of_no_attribute (h : MarkupElement.attribute? e "role" = none) :
    r.verifiedRole version e = .ok ((r.implicitRole? e).map (⟨·, true⟩)) := by
  rw [verifiedRole, computedRole?, h]
  cases r.implicitRole? e <;> rfl

/-- A role that is asked for is looked up, and what is found decides. -/
theorem verified_role_of_attribute (h : MarkupElement.attribute? e "role" = some value) :
    r.verifiedRole version e =
      match r.role? version (requestedRole value) with
      | none => .error (.unknown (requestedRole value))
      | some role =>
        if role.isAbstract then .error (.abstractRole (requestedRole value))
        else if (r.permission e).permits (requestedRole value) then
          .ok (some ⟨requestedRole value, false⟩)
        else .error (.notPermitted (requestedRole value) (MarkupElement.name e)) := by
  rw [verifiedRole, computedRole?, h]
  rfl

/-- The answer about an element that asks for `name`, by what is declared about `name`. -/
inductive Verdict (r : Repository) (version : Aria.Version) (e : ε) (name : String) :
    Except RoleProblem (Option ComputedRole) → Prop where
  | unknown :
      name ∉ r.document.roleNames version → r.Verdict version e name (.error (.unknown name))
  | abstractRole :
      name ∈ r.document.roleNames version → r.IsAbstract version name →
      r.Verdict version e name (.error (.abstractRole name))
  | notPermitted :
      name ∈ r.document.roleNames version → ¬ r.IsAbstract version name →
      (r.permission e).permits name = false →
      r.Verdict version e name (.error (.notPermitted name (MarkupElement.name e)))
  | accepted :
      name ∈ r.document.roleNames version → ¬ r.IsAbstract version name →
      (r.permission e).permits name = true →
      r.Verdict version e name (.ok (some ⟨name, false⟩))

/-- The answer for an element with a `role` attribute is a verdict on the role asked for. -/
theorem verdict_verified_role (h : MarkupElement.attribute? e "role" = some value) :
    r.Verdict version e (requestedRole value) (r.verifiedRole version e) := by
  rw [verified_role_of_attribute h]
  cases hrole : r.role? version (requestedRole value) with
  | none =>
      refine .unknown ?_
      rw [← role?_is_some_iff, hrole]
      exact Bool.false_ne_true
  | some role =>
      have hdeclared : requestedRole value ∈ r.document.roleNames version := by
        rw [← role?_is_some_iff, hrole]
        rfl
      have habstract := is_abstract_iff hrole
      dsimp only
      split
      · rename_i hyes
        exact .abstractRole hdeclared (habstract.2 hyes)
      · rename_i hno
        split
        · rename_i hpermits
          exact .accepted hdeclared (mt habstract.1 hno) hpermits
        · rename_i hpermits
          exact .notPermitted hdeclared (mt habstract.1 hno) (by simpa using hpermits)

namespace Verdict

variable {answer other : Except RoleProblem (Option ComputedRole)}

/-- There is one verdict on a role. -/
theorem unique (h : r.Verdict version e name answer) (hother : r.Verdict version e name other) :
    answer = other := by
  cases h <;> cases hother <;> simp_all

/-- The role that an element has on its own is permitted. -/
theorem ne_not_permitted (h : r.Verdict version e name answer)
    (hown : r.implicitRole? e = some name) (role element : String) :
    answer ≠ .error (.notPermitted role element) := by
  have hpermits := permits_of_implicit_role? hown
  cases h with
  | notPermitted _ _ hrefused => simp [hpermits] at hrefused
  | unknown | abstractRole | accepted => simp

end Verdict

/-- The answer for an element with a `role` attribute is the one verdict on the role asked for. -/
theorem verified_role_eq_iff {answer : Except RoleProblem (Option ComputedRole)}
    (h : MarkupElement.attribute? e "role" = some value) :
    r.verifiedRole version e = answer ↔ r.Verdict version e (requestedRole value) answer := by
  have hverdict : r.Verdict version e (requestedRole value) (r.verifiedRole version e) :=
    verdict_verified_role h
  exact ⟨fun heq => heq ▸ hverdict, hverdict.unique⟩

/-- Where nothing is wrong, the answer is the role of the element. -/
theorem computed_role?_of_verified_role {computed : Option ComputedRole}
    (h : r.verifiedRole version e = .ok computed) : r.computedRole? e = computed := by
  cases hattribute : MarkupElement.attribute? e "role" with
  | none =>
      rw [verified_role_of_no_attribute hattribute] at h
      cases h
      rw [computedRole?, hattribute]
  | some value =>
      cases (verified_role_eq_iff hattribute).1 h
      rw [computedRole?, hattribute]

/-- An element that asks for no role gets the one that it has on its own, if any, and nothing is
ever wrong. If it asks for a role, that one is answered exactly if it is declared, not abstract, and
permitted; otherwise the first of the three that fails is the problem. The role that the element has
on its own is never refused, and where nothing is wrong, the answer is the role of the element. -/
theorem verdict_of_role (r : Repository) (version : Aria.Version) (e : ε) :
    (MarkupElement.attribute? e "role" = none →
      r.verifiedRole version e = .ok ((r.implicitRole? e).map (⟨·, true⟩))) ∧
    (∀ value, MarkupElement.attribute? e "role" = some value →
      (∀ answer, r.verifiedRole version e = answer ↔
        r.Verdict version e (requestedRole value) answer) ∧
      (r.implicitRole? e = some (requestedRole value) → ∀ role element,
        r.verifiedRole version e ≠ .error (.notPermitted role element))) ∧
    ∀ computed, r.verifiedRole version e = .ok computed → r.computedRole? e = computed := by
  refine ⟨verified_role_of_no_attribute, ?_, fun _ => computed_role?_of_verified_role⟩
  intro value h
  exact ⟨fun answer => verified_role_eq_iff h, (verdict_verified_role h).ne_not_permitted⟩

/-- A document in which an area is described, and roles of which an area may have two. -/
def areaDocument : Document where
  definitions := { aria := { v12 := {
    roles := [{ name := "widget", isAbstract := true }, { name := "link" }, { name := "button" }]
    graphicsRoles := [{ name := "symbol" }] } } }
  elements := [areaDefinition]

/-- An area that is a link need not ask for that role, and may; it may not be a symbol. -/
theorem verdict_of_area :
    ∃ r, ofDocument areaDocument = .ok r ∧
      r.verifiedRole .v12 leadingArea = .ok (some ⟨"link", true⟩) ∧
      r.verifiedRole .v12 (leadingArea.addAttribute "Role" " LINK button") =
        .ok (some ⟨"link", false⟩) ∧
      r.verifiedRole .v12 (leadingArea.addAttribute "role" "symbol") =
        .error (.notPermitted "symbol" "area") := by
  obtain ⟨r, hr⟩ := exists_of_document_iff.2 (show areaDocument.defect? = none by cbv)
  have hdocument := document_of_ok hr
  have hlisted : areaDefinition ∈ r.document.elements := hdocument ▸ List.mem_cons_self
  have hknown : ∀ name ∈ ["link", "symbol"],
      name ∈ r.document.roleNames .v12 ∧ ¬ r.IsAbstract .v12 name := by
    unfold IsAbstract
    rw [hdocument]
    decide
  refine ⟨r, hr, ?_, ?_, ?_⟩
  · have hown : r.implicitRole? leadingArea = some "link" :=
      implicit_role?_of_area ⟨hlisted, rfl⟩ rfl (by decide) (by decide)
    have hanswer := (verdict_of_role r .v12 leadingArea).1 rfl
    rwa [hown] at hanswer
  · let area := leadingArea.addAttribute "Role" " LINK button"
    obtain ⟨hdeclared, hconcrete⟩ := hknown "link" (by decide)
    have hown : r.implicitRole? area = some "link" :=
      implicit_role?_of_area ⟨hlisted, rfl⟩ rfl (by decide) (by decide)
    have hrole : requestedRole " LINK button" = "link" := by decide +kernel
    refine (((verdict_of_role r .v12 area).2.1 " LINK button" (by decide)).1 _).2 ?_
    rw [hrole]
    exact .accepted hdeclared hconcrete (permits_of_implicit_role? hown)
  · let area := leadingArea.addAttribute "role" "symbol"
    obtain ⟨hdeclared, hconcrete⟩ := hknown "symbol" (by decide)
    have hown : r.implicitRole? area = some "link" :=
      implicit_role?_of_area ⟨hlisted, rfl⟩ rfl (by decide) (by decide)
    have hrefused : (r.permission area).permits "symbol" = false := by
      rw [permission_of_selects (selects_of_area ⟨hlisted, rfl⟩ rfl (by decide)), hown]
      decide
    have hrole : requestedRole "symbol" = "symbol" := by decide +kernel
    refine (((verdict_of_role r .v12 area).2.1 "symbol" (by decide)).1 _).2 ?_
    rw [hrole]
    exact .notPermitted hdeclared hconcrete hrefused

end Repository

end MarkupSemantics
