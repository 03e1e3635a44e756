import MarkupSemantics.Proofs.Acceptance
import MarkupSemantics.Proofs.SelectorReading
import MarkupSemantics.Rules.ElementRole

/-!
# Which roles an element may ask for

Of several cases the first one that applies decides, for the role that an element has on its own and
for the roles that it may ask for. `Case.Decides`, `Repository.HasOwnRole` and `Repository.Selects`
say this in terms of the lists of the document. The main statement is `permission_of_element`: what
is permitted, and the form of the list.
-/

namespace MarkupSemantics

variable {ε : Type} [MarkupElement ε] {e : ε}

/-! ### Cases -/

/-- `Case.Decides e cases value` says `value` is the value of the first of `cases` that applies to
`e`, if there is one. -/
inductive Case.Decides {α : Type} (e : ε) : List (Case α) → Option α → Prop where
  | first (before c after) :
      (∀ earlier ∈ before, MarkupElement.satisfies e earlier.condition = false) →
      MarkupElement.satisfies e c.condition = true →
      Case.Decides e (before ++ c :: after) (some c.value)
  | none (cases) :
      (∀ c ∈ cases, MarkupElement.satisfies e c.condition = false) → Case.Decides e cases none

namespace Case

variable {α : Type} {cases : List (Case α)} {value : Option α}

/-- What the first applicable case decides is selected. -/
theorem select_of_decides (h : Decides e cases value) : select cases e = value := by
  cases h with
  | first before c after hbefore hc =>
      have hfound : (before ++ c :: after).find? (MarkupElement.satisfies e ·.condition) = some c :=
        List.find?_eq_some_iff_append.2 ⟨hc, before, after, rfl, by simpa using hbefore⟩
      rw [select, hfound, Option.map_some]
  | none _ hnone =>
      have hfound : cases.find? (MarkupElement.satisfies e ·.condition) = none :=
        List.find?_eq_none.2 (by simpa using hnone)
      rw [select, hfound, Option.map_none]

/-- What is selected is what the first applicable case decides. -/
theorem decides_select (cases : List (Case α)) (e : ε) : Decides e cases (select cases e) := by
  rw [select]
  cases hfound : cases.find? (MarkupElement.satisfies e ·.condition) with
  | none => exact .none cases (by simpa using List.find?_eq_none.1 hfound)
  | some c =>
      obtain ⟨hc, before, after, rfl, hbefore⟩ := List.find?_eq_some_iff_append.1 hfound
      exact .first before c after (by simpa using hbefore) hc

/-- What is selected is what the first applicable case decides. -/
theorem decides_iff : Decides e cases value ↔ select cases e = value :=
  ⟨select_of_decides, fun h => h ▸ decides_select cases e⟩

end Case

/-- `implicit.Gives e role` says `role` is the role of the first case of `implicit` that applies to
`e`, or the role without a condition where no case applies. -/
def ImplicitRole.Gives (implicit : ImplicitRole) (e : ε) (role : String) : Prop :=
  Case.Decides e implicit.cases (some role) ∨
    Case.Decides e implicit.cases none ∧ implicit.role = some role

/-- `permitted.Gives e p` says `p` is the permission of the first case of `permitted` that applies
to `e`, or the base permission where no case applies. -/
def PermittedRoles.Gives (permitted : PermittedRoles) (e : ε) (p : Permission) : Prop :=
  Case.Decides e permitted.cases (some p) ∨
    Case.Decides e permitted.cases none ∧ permitted.base = p

/-- The role that is given is the selected one, or else the one without a condition. -/
theorem ImplicitRole.gives_iff {implicit : ImplicitRole} {role : String} :
    implicit.Gives e role ↔ (Case.select implicit.cases e).or implicit.role = some role := by
  rw [Gives, Case.decides_iff, Case.decides_iff, Option.or_eq_some_iff]

/-- An empty name is no role. -/
theorem ImplicitRole.select?_eq_some_iff {implicit : ImplicitRole} {role : String} :
    implicit.select? e = some role ↔ role ≠ "" ∧ implicit.Gives e role := by
  rw [select?, Option.filter_eq_some_iff, ← gives_iff, and_comm]
  simp

/-- The permission that is given is the selected one, or else the base permission. -/
theorem PermittedRoles.gives_iff {permitted : PermittedRoles} {p : Permission} :
    permitted.Gives e p ↔ (Case.select permitted.cases e).getD permitted.base = p := by
  rw [Gives, Case.decides_iff, Case.decides_iff]
  cases Case.select permitted.cases e <;> simp

/-! ### Permissions -/

namespace Permission

variable {p : Permission} {own role : String} {roles : List String}

/-- A role is permitted where nothing is ruled out, and where it is listed. -/
theorem permits_iff :
    p.permits role = true ↔ p = .any ∨ ∃ roles, p = .only roles ∧ role ∈ roles := by
  cases p <;> simp [permits]

/-- One more role is permitted, and no other. -/
theorem permits_allowing :
    (p.allowing own).permits role = true ↔ p.permits role = true ∨ own = role := by
  cases p with
  | any => simp [allowing, permits]
  | only roles => simp [allowing, permits, or_comm, @eq_comm _ role]
  | none => simp [allowing, permits, eq_comm]

/-- The one more role comes first, and the listed roles follow in their order. -/
theorem allowing_eq_only_iff :
    p.allowing own = .only roles ↔
      p = .none ∧ roles = [own] ∨ ∃ listed, p = .only listed ∧ roles = own :: listed := by
  cases p with
  | any => simp [allowing]
  | only listed => simp [allowing, @eq_comm _ roles]
  | none => simp [allowing, @eq_comm _ roles]

/-- The role that an element has on its own is permitted besides the others, if it has a name. -/
theorem permits_including {implicit : Option String} :
    (p.including implicit).permits role = true ↔
      p.permits role = true ∨ implicit.filter (· != "") = some role := by
  rw [including]
  split
  · rename_i own hown
    rw [permits_allowing, hown, Option.some.injEq]
  · rename_i hnone
    simp [hnone]

end Permission

namespace Repository

variable {r : Repository} {definition : ElementDef} {role : String}

/-! ### Elements of a document -/

/-- `r.Describes e definition` says `definition` is listed in the document for elements with the
name of `e`. -/
def Describes (r : Repository) (e : ε) (definition : ElementDef) : Prop :=
  definition ∈ r.document.elements ∧ definition.name = MarkupElement.name e

/-- `r.HasOwnRole e role` says the definition of `e` gives it the role `role`. An empty name is no
role. -/
def HasOwnRole (r : Repository) (e : ε) (role : String) : Prop :=
  role ≠ "" ∧ ∃ definition implicit, r.Describes e definition ∧
    definition.implicitRole = some implicit ∧ implicit.Gives e role

/-- `r.Selects e p` says the definition of `e` gives it the permission `p`. -/
def Selects (r : Repository) (e : ε) (p : Permission) : Prop :=
  ∃ definition permitted, r.Describes e definition ∧
    definition.permittedRoles = some permitted ∧ permitted.Gives e p

/-- `r.IsUnrestricted e` says `e` has no definition, or one that says nothing about permitted
roles. -/
def IsUnrestricted (r : Repository) (e : ε) : Prop :=
  ∀ definition, r.Describes e definition → definition.permittedRoles = none

/-- The definition that is found for an element is the one that describes it. -/
theorem definition?_eq_some_iff : r.definition? e = some definition ↔ r.Describes e definition :=
  element?_eq_some_iff

/-- The role that an element has on its own is the one that its definition gives. -/
theorem implicit_role?_eq_some_iff : r.implicitRole? e = some role ↔ r.HasOwnRole e role := by
  unfold implicitRole? HasOwnRole
  simp only [bind, Option.bind_eq_some_iff, definition?_eq_some_iff,
    ImplicitRole.select?_eq_some_iff]
  constructor
  · rintro ⟨definition, hdescribes, implicit, himplicit, hname, hgives⟩
    exact ⟨hname, definition, implicit, hdescribes, himplicit, hgives⟩
  · rintro ⟨hname, definition, implicit, hdescribes, himplicit, hgives⟩
    exact ⟨definition, hdescribes, implicit, himplicit, hname, hgives⟩

/-- The role that an element has on its own has a name. -/
theorem filter_implicit_role? : (r.implicitRole? e).filter (· != "") = r.implicitRole? e := by
  cases h : r.implicitRole? e with
  | none => rfl
  | some role =>
      have hname : role ≠ "" := (implicit_role?_eq_some_iff.1 h).1
      simp [hname]

/-! ### What an element may ask for -/

/-- Nothing is said about the roles of an element, or a permission is selected for it. -/
theorem is_unrestricted_or_selects (r : Repository) (e : ε) :
    r.IsUnrestricted e ∨ ∃ p, r.Selects e p := by
  cases hdefinition : (r.definition? e).bind (·.permittedRoles) with
  | none =>
      refine .inl fun definition hdescribes => ?_
      rwa [definition?_eq_some_iff.2 hdescribes] at hdefinition
  | some permitted =>
      obtain ⟨definition, hfound, hpermitted⟩ := Option.bind_eq_some_iff.1 hdefinition
      exact .inr ⟨_, definition, permitted, definition?_eq_some_iff.1 hfound, hpermitted,
        PermittedRoles.gives_iff.2 rfl⟩

/-- An element about which nothing is said may ask for every role. -/
theorem permission_of_is_unrestricted (h : r.IsUnrestricted e) : r.permission e = .any := by
  have hnone : (r.definition? e).bind (·.permittedRoles) = none := by
    rw [Option.bind_eq_none_iff]
    exact fun definition hfound => h definition (definition?_eq_some_iff.1 hfound)
  rw [permission, hnone]

/-- An element may ask for what is selected for it and for the role that it has on its own. -/
theorem permission_of_selects {p : Permission} (h : r.Selects e p) :
    r.permission e = p.including (r.implicitRole? e) := by
  obtain ⟨definition, permitted, hdescribes, hpermitted, hgives⟩ := h
  rw [permission, definition?_eq_some_iff.2 hdescribes, Option.bind_some, hpermitted]
  simp only [PermittedRoles.gives_iff.1 hgives]

/-- A role is permitted exactly if the selected permission permits it or the element has it on its
own. -/
theorem permits_of_selects {p : Permission} (h : r.Selects e p) :
    (r.permission e).permits role = true ↔
      p.permits role = true ∨ r.implicitRole? e = some role := by
  rw [permission_of_selects h, Permission.permits_including, filter_implicit_role?]

/-- An element may always ask for the role that it has on its own. -/
theorem permits_of_implicit_role? (h : r.implicitRole? e = some role) :
    (r.permission e).permits role = true := by
  rcases is_unrestricted_or_selects r e with hunrestricted | ⟨p, hselects⟩
  · rw [permission_of_is_unrestricted hunrestricted]
    rfl
  · exact (permits_of_selects hselects).2 (.inr h)

/-- A role is permitted exactly if nothing is said, the selection permits it, or the element has it
on its own. -/
theorem permits_permission_iff : (r.permission e).permits role = true ↔
    r.IsUnrestricted e ∨ (∃ p, r.Selects e p ∧ p.permits role = true) ∨
      r.implicitRole? e = some role := by
  constructor
  · intro h
    rcases is_unrestricted_or_selects r e with hunrestricted | ⟨p, hselects⟩
    · exact .inl hunrestricted
    · rcases (permits_of_selects hselects).1 h with hp | himplicit
      · exact .inr (.inl ⟨p, hselects, hp⟩)
      · exact .inr (.inr himplicit)
  · rintro (hunrestricted | ⟨p, hselects, hp⟩ | himplicit)
    · rw [permission_of_is_unrestricted hunrestricted]
      rfl
    · exact (permits_of_selects hselects).2 (.inl hp)
    · exact permits_of_implicit_role? himplicit

/-- A list of permitted roles starts with the role that the element has on its own, and the selected
list follows. -/
theorem permission_eq_only {own : String} {roles : List String}
    (hown : r.implicitRole? e = some own) (h : r.permission e = .only roles) :
    r.Selects e .none ∧ roles = [own] ∨
      ∃ listed, r.Selects e (.only listed) ∧ roles = own :: listed := by
  rcases is_unrestricted_or_selects r e with hunrestricted | ⟨p, hselects⟩
  · rw [permission_of_is_unrestricted hunrestricted] at h
    cases h
  · rw [permission_of_selects hselects, Permission.including, filter_implicit_role?, hown,
      Permission.allowing_eq_only_iff] at h
    rcases h with ⟨rfl, hroles⟩ | ⟨listed, rfl, hroles⟩
    · exact .inl ⟨hselects, hroles⟩
    · exact .inr ⟨listed, hselects, hroles⟩

/-- Where the definition selects an empty name, the element has no role on its own. -/
theorem implicit_role?_eq_none_of_empty {implicit : ImplicitRole}
    (hdescribes : r.Describes e definition) (himplicit : definition.implicitRole = some implicit)
    (hgives : implicit.Gives e "") : r.implicitRole? e = none := by
  rw [implicitRole?, definition?_eq_some_iff.2 hdescribes]
  simp [himplicit, ImplicitRole.select?, ImplicitRole.gives_iff.1 hgives]

/-- An element may ask for a role exactly if nothing is said about its roles, or what is selected
for it permits the role, or it has the role on its own. A permission permits every role or those
that it lists. The role that an element has on its own is the role of the first case that applies,
or else the one without a condition; where an empty name is selected, it has none. If it has one and
may ask for listed roles only, that role comes first, and what follows is the selected list; nothing
follows if no role is selected. -/
theorem permission_of_element (r : Repository) (e : ε) :
    (∀ role, (r.permission e).permits role = true ↔
      r.IsUnrestricted e ∨ (∃ p, r.Selects e p ∧ p.permits role = true) ∨
        r.implicitRole? e = some role) ∧
    (∀ (p : Permission) role,
      p.permits role = true ↔ p = .any ∨ ∃ roles, p = .only roles ∧ role ∈ roles) ∧
    (∀ role, r.implicitRole? e = some role ↔ r.HasOwnRole e role) ∧
    (∀ definition implicit, r.Describes e definition →
      definition.implicitRole = some implicit → implicit.Gives e "" → r.implicitRole? e = none) ∧
    ∀ own roles, r.implicitRole? e = some own → r.permission e = .only roles →
      r.Selects e .none ∧ roles = [own] ∨
        ∃ listed, r.Selects e (.only listed) ∧ roles = own :: listed := by
  refine ⟨fun role => permits_permission_iff, fun p role => Permission.permits_iff,
    fun role => implicit_role?_eq_some_iff, ?_, ?_⟩
  · intro definition implicit hdescribes himplicit hgives
    exact implicit_role?_eq_none_of_empty hdescribes himplicit hgives
  · intro own roles hown h
    exact permission_eq_only hown h

/-! ### Areas -/

/-- An area, which is a link where it leads somewhere and has no role where it is hidden. With a
text it may be a button. -/
def areaDefinition : ElementDef where
  name := "area"
  implicitRole := some { role := some "generic", cases := [⟨"[hidden]", ""⟩, ⟨"[href]", "link"⟩] }
  permittedRoles := some { base := .none, cases := [⟨"[alt]", .only ["button", "link"]⟩] }

/-- An area that leads somewhere, with a text. -/
def leadingArea : Tree.Element :=
  ((Tree.Element.named "area").addAttribute "href" "/x").addAttribute "alt" "x"

/-- A hidden area. -/
def hiddenArea : Tree.Element :=
  leadingArea.addAttribute "hidden" ""

section Areas

open Tree.Selector (satisfies_has)

variable {area : Tree.Element}

/-- An area that leads somewhere is a link. -/
theorem implicit_role?_of_area (hdescribes : r.Describes area areaDefinition)
    (helement : area.node.isElement = true) (hhidden : area.node.attribute? "hidden" = none)
    (hhref : (area.node.attribute? "href").isSome = true) :
    r.implicitRole? area = some "link" := by
  have hnothidden : MarkupElement.satisfies area "[hidden]" = false := by
    rw [satisfies_has area ⟨"hidden", by decide, by decide⟩ (by decide), hhidden]
    exact Bool.and_false _
  have hleads : MarkupElement.satisfies area "[href]" = true := by
    rw [satisfies_has area ⟨"href", by decide, by decide⟩ (by decide), helement, hhref]
    rfl
  refine implicit_role?_eq_some_iff.2 ⟨by decide, areaDefinition, _, hdescribes, rfl, .inl ?_⟩
  exact .first [⟨"[hidden]", ""⟩] ⟨"[href]", "link"⟩ [] (by simpa using hnothidden) hleads

/-- An area with a text may be a button. -/
theorem selects_of_area (hdescribes : r.Describes area areaDefinition)
    (helement : area.node.isElement = true) (halt : (area.node.attribute? "alt").isSome = true) :
    r.Selects area (.only ["button", "link"]) := by
  have htext : MarkupElement.satisfies area "[alt]" = true := by
    rw [satisfies_has area ⟨"alt", by decide, by decide⟩ (by decide), helement, halt]
    rfl
  exact ⟨areaDefinition, _, hdescribes, rfl, .inl (.first [] ⟨"[alt]", _⟩ [] (by simp) htext)⟩

/-- The area that leads somewhere may ask for the roles of a link and a button and for no other.
When it is hidden it has no role on its own. -/
theorem permission_of_area :
    ∃ r, ofDocument { elements := [areaDefinition] } = .ok r ∧
      r.permission leadingArea = .only ["link", "button", "link"] ∧
      r.Selects leadingArea (.only ["button", "link"]) ∧
      (∀ role, (r.permission leadingArea).permits role = true ↔ role = "link" ∨ role = "button") ∧
      r.implicitRole? hiddenArea = none := by
  obtain ⟨r, hr⟩ := exists_of_document_iff.2
    (show Document.defect? { elements := [areaDefinition] } = none by cbv)
  have hlisted : areaDefinition ∈ r.document.elements := document_of_ok hr ▸ List.mem_cons_self
  have hown : r.implicitRole? leadingArea = some "link" :=
    implicit_role?_of_area ⟨hlisted, rfl⟩ rfl (by decide) (by decide)
  have hpermission : r.permission leadingArea = .only ["link", "button", "link"] := by
    rw [permission_of_selects (selects_of_area ⟨hlisted, rfl⟩ rfl (by decide)), hown]
    rfl
  have hnone : r.implicitRole? hiddenArea = none := by
    have hhidden : MarkupElement.satisfies hiddenArea "[hidden]" = true := by
      rw [satisfies_has hiddenArea ⟨"hidden", by decide, by decide⟩ (by decide)]
      decide
    exact (permission_of_element r hiddenArea).2.2.2.1 areaDefinition _ ⟨hlisted, rfl⟩ rfl
      (.inl (.first [] ⟨"[hidden]", ""⟩ _ (by simp) hhidden))
  obtain ⟨-, hpermits, -, -, hlist⟩ := permission_of_element r leadingArea
  refine ⟨r, hr, hpermission, ?_, fun role => ?_, hnone⟩
  · rcases hlist _ _ hown hpermission with ⟨-, hroles⟩ | ⟨listed, hselects, hroles⟩
    · cases hroles
    · cases hroles
      exact hselects
  · rw [hpermission, hpermits]
    simp only [reduceCtorEq, false_or, Permission.only.injEq, exists_eq_left', List.mem_cons,
      List.not_mem_nil, or_false]
    tauto

end Areas

end Repository

end MarkupSemantics
