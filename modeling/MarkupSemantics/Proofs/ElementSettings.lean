import MarkupSemantics.Proofs.Lookup

/-!
# Which groups are noted for a definition

A definition of an element lists its attributes and notes the groups that they refer to. Both are
set by one setter, which replaces the list but only adds to the groups. `set_globalAttributes` says
what one setting does to the groups, `foldl_set_globalAttributes` what a sequence of settings does.
The main statement is `groups_of_built`: which groups are noted in the end, and when these are the
groups that the attributes refer to.
-/

namespace MarkupSemantics.ElementDef

/-- One setting of a part of a definition. -/
inductive Setting where
  /-- Where the element is described. -/
  | cite (cite : String)
  /-- The categories of content. -/
  | categories (categories : List String)
  /-- The permitted children. -/
  | contents (contents : List String)
  /-- The attributes. -/
  | attributes (entries : List AttributeEntry)
  /-- The role that the element has on its own. -/
  | implicitRole (role : ImplicitRole)
  /-- The roles that an author may give. -/
  | permittedRoles (roles : PermittedRoles)
  /-- The mark of a deprecated element. -/
  | deprecated

/-- `e.set setting` is `e` after `setting`. -/
def set (e : ElementDef) : Setting → ElementDef
  | .cite cite => e.withCite cite
  | .categories categories => e.withCategories categories
  | .contents contents => e.withContents contents
  | .attributes entries => e.withAttributes entries
  | .implicitRole role => e.withImplicitRole role
  | .permittedRoles roles => e.withPermittedRoles roles
  | .deprecated => e.markDeprecated

/-- `built name settings` is the definition of `name` after `settings`, one after the other. -/
def built (name : String) (settings : List Setting) : ElementDef :=
  settings.foldl set (named name)

/-- `setting.entries?` is the list of attributes that `setting` sets, if it sets any. -/
def Setting.entries? : Setting → Option (List AttributeEntry)
  | .attributes entries => some entries
  | _ => none

/-- `attributeLists settings` lists the lists of attributes that are set, in their order. -/
def attributeLists (settings : List Setting) : List (List AttributeEntry) :=
  settings.filterMap (·.entries?)

/-- `RefersTo entries group` says `entries` refer to `group`. The reference to the shared attributes
stands for those of HTML. -/
def RefersTo (entries : List AttributeEntry) (group : String) : Prop :=
  (.group group ∈ entries ∧ group ≠ AttributeEntry.globalReference) ∨
    (group = AttributeEntry.htmlGlobalGroup ∧ .group AttributeEntry.globalReference ∈ entries)

instance (entries : List AttributeEntry) (group : String) : Decidable (RefersTo entries group) :=
  inferInstanceAs (Decidable (_ ∨ _))

/-- `Mentions settings group` says some attributes that `settings` set refer to `group`. -/
def Mentions (settings : List Setting) (group : String) : Prop :=
  ∃ entries ∈ attributeLists settings, RefersTo entries group

instance (settings : List Setting) (group : String) : Decidable (Mentions settings group) :=
  inferInstanceAs (Decidable (∃ entries ∈ _, _))

/-- `e.GroupsAgree` says the groups noted for `e` are those that its attributes refer to. -/
structure GroupsAgree (e : ElementDef) : Prop where
  /-- A group is noted exactly if the attributes refer to it. -/
  noted_iff : ∀ group,
    e.globalAttributes.get? group = some true ↔ RefersTo e.attributes group
  /-- There is nothing about any other group. -/
  no_other : ∀ group ∈ e.globalAttributes.keys, RefersTo e.attributes group

variable {e : ElementDef} {entries : List AttributeEntry} {group name : String}
  {setting : Setting} {settings : List Setting}

/-- Without entries no group is referred to. -/
theorem refers_to_nil : ¬ RefersTo [] group := by
  simp [RefersTo]

/-- A reference stands for one group. -/
theorem refers_to_group_cons {reference : String} :
    RefersTo (.group reference :: entries) group ↔
      group = groupKey reference ∨ RefersTo entries group := by
  simp only [RefersTo, List.mem_cons, AttributeEntry.group.injEq]
  by_cases hshared : reference = AttributeEntry.globalReference
  · subst hshared
    rw [groupKey, if_pos rfl]
    constructor
    · rintro (⟨rfl | hmem, hne⟩ | ⟨rfl, -⟩)
      · exact absurd rfl hne
      · exact .inr (.inl ⟨hmem, hne⟩)
      · exact .inl rfl
    · rintro (rfl | ⟨hmem, hne⟩ | ⟨rfl, -⟩)
      · exact .inr ⟨rfl, .inl rfl⟩
      · exact .inl ⟨.inr hmem, hne⟩
      · exact .inr ⟨rfl, .inl rfl⟩
  · rw [groupKey, if_neg hshared, or_iff_right (Ne.symm hshared)]
    constructor
    · rintro (⟨rfl | hmem, hne⟩ | h)
      · exact .inl rfl
      · exact .inr (.inl ⟨hmem, hne⟩)
      · exact .inr (.inr h)
    · rintro (rfl | ⟨hmem, hne⟩ | h)
      · exact .inl ⟨.inl rfl, hshared⟩
      · exact .inl ⟨.inr hmem, hne⟩
      · exact .inr h

/-- An attribute refers to no group. -/
theorem refers_to_single_cons {a : AttributeDef} :
    RefersTo (.single a :: entries) group ↔ RefersTo entries group := by
  simp [RefersTo]

/-- The groups that entries refer to are noted, and all others are as before. -/
theorem get?_note_groups (groups : StringMap Bool) (entries : List AttributeEntry)
    (group : String) :
    (noteGroups groups entries).get? group =
      if RefersTo entries group then some true else groups.get? group := by
  induction entries generalizing groups with
  | nil => rw [noteGroups, if_neg refers_to_nil]
  | cons entry entries ih =>
      cases entry with
      | single a =>
          rw [noteGroups, ih]
          simp only [refers_to_single_cons]
      | group reference =>
          rw [noteGroups, ih, StringMap.get?_insert]
          simp only [refers_to_group_cons]
          by_cases h : RefersTo entries group
          · simp [h]
          · simp [h]

/-! ### One setting and a sequence of them -/

/-- The list of a setting comes before the lists of those that follow. -/
theorem attribute_lists_cons :
    attributeLists (setting :: settings) = setting.entries?.toList ++ attributeLists settings := by
  unfold attributeLists
  cases h : setting.entries? with
  | none => rw [List.filterMap_cons_none h]; rfl
  | some entries => rw [List.filterMap_cons_some h]; rfl

/-- Only the setter of attributes changes the attributes. -/
theorem set_attributes (e : ElementDef) (setting : Setting) :
    (e.set setting).attributes = setting.entries?.getD e.attributes := by
  cases setting <;> rfl

/-- The setter of attributes adds the groups that they refer to, and no setter takes one away. -/
theorem get?_set_groups (e : ElementDef) (setting : Setting) (group : String) :
    (e.set setting).globalAttributes.get? group =
      if ∃ entries ∈ setting.entries?, RefersTo entries group then some true
      else e.globalAttributes.get? group := by
  cases setting with
  | attributes entries =>
      have hset : (e.set (.attributes entries)).globalAttributes =
          noteGroups e.globalAttributes entries := rfl
      rw [hset, get?_note_groups]
      simp [Setting.entries?]
  | _ => simp [Setting.entries?, set, withCite, withCategories, withContents, withImplicitRole,
      withPermittedRoles, markDeprecated]

/-- After a sequence of settings the attributes are those that were set last. -/
theorem foldl_set_attributes (e : ElementDef) (settings : List Setting) :
    (settings.foldl set e).attributes = (attributeLists settings).getLast?.getD e.attributes := by
  induction settings generalizing e with
  | nil => rfl
  | cons setting settings ih =>
      rw [List.foldl_cons, ih, set_attributes, attribute_lists_cons]
      cases setting.entries? with
      | none => rfl
      | some entries =>
          rw [Option.toList_some, List.singleton_append, List.getLast?_cons, Option.getD_some,
            Option.getD_some]

/-- After a sequence of settings all groups are noted that any of the attributes set refer to. -/
theorem get?_foldl_set_groups (e : ElementDef) (settings : List Setting) (group : String) :
    (settings.foldl set e).globalAttributes.get? group =
      if Mentions settings group then some true else e.globalAttributes.get? group := by
  induction settings generalizing e with
  | nil => simp [Mentions, attributeLists]
  | cons setting settings ih =>
      have hmentions : Mentions (setting :: settings) group ↔
          Mentions settings group ∨ ∃ entries ∈ setting.entries?, RefersTo entries group := by
        unfold Mentions
        rw [attribute_lists_cons]
        simp only [List.mem_append, Option.mem_toList, or_and_right, exists_or]
        exact or_comm
      rw [List.foldl_cons, ih, get?_set_groups]
      by_cases hlater : Mentions settings group
      · rw [if_pos hlater, if_pos (hmentions.2 (.inl hlater))]
      · simp only [hmentions, hlater, if_false, false_or]

/-! ### When the noted groups are the right ones -/

/-- A group is noted exactly if some attributes that were set refer to it. -/
theorem get?_built_groups (name : String) (settings : List Setting) (group : String) :
    (built name settings).globalAttributes.get? group =
      if Mentions settings group then some true else none :=
  get?_foldl_set_groups (named name) settings group

/-- The attributes are those of the last list that is set. -/
theorem built_attributes (name : String) (settings : List Setting) :
    (built name settings).attributes = (attributeLists settings).getLast?.getD [] :=
  foldl_set_attributes (named name) settings

/-- What the attributes refer to in the end was mentioned when they were set. -/
theorem mentions_of_refers_to_built (h : RefersTo (built name settings).attributes group) :
    Mentions settings group := by
  rw [built_attributes] at h
  cases hlast : (attributeLists settings).getLast? with
  | none =>
      rw [hlast] at h
      exact absurd h refers_to_nil
  | some entries =>
      rw [hlast] at h
      exact ⟨entries, List.mem_of_getLast? hlast, h⟩

/-- The noted groups are those that the attributes refer to exactly if the attributes refer to all
that was ever mentioned. -/
theorem groups_agree_built_iff :
    (built name settings).GroupsAgree ↔
      ∀ group, Mentions settings group → RefersTo (built name settings).attributes group := by
  constructor
  · intro h group hmentions
    refine (h.noted_iff group).1 ?_
    rw [get?_built_groups, if_pos hmentions]
  · intro h
    refine ⟨fun group => ?_, fun group hkey => h group ?_⟩
    · rw [get?_built_groups]
      constructor
      · intro hnoted
        by_contra hrefers
        rw [if_neg fun hmentions => hrefers (h group hmentions)] at hnoted
        cases hnoted
      · intro hrefers
        rw [if_pos (mentions_of_refers_to_built hrefers)]
    · by_contra hmentions
      rw [← StringMap.get?_is_some_iff, get?_built_groups, if_neg hmentions] at hkey
      cases hkey

/-- However the parts of a new definition are set, its attributes are those that were set last, and
the groups noted for it are all that any of the attributes set refer to. So these are the groups of
its attributes exactly if attributes that were replaced refer to no other group, for instance if
attributes are set at most once. -/
theorem groups_of_built (name : String) (settings : List Setting) :
    (built name settings).attributes = (attributeLists settings).getLast?.getD [] ∧
    (∀ group, (built name settings).globalAttributes.get? group =
      if Mentions settings group then some true else none) ∧
    ((built name settings).GroupsAgree ↔
      ∀ group, Mentions settings group → RefersTo (built name settings).attributes group) ∧
    ((attributeLists settings).length ≤ 1 → (built name settings).GroupsAgree) := by
  refine ⟨built_attributes name settings, get?_built_groups name settings,
    groups_agree_built_iff, fun honce => groups_agree_built_iff.2 ?_⟩
  rintro group ⟨entries, hentries, hrefers⟩
  obtain ⟨only, honly⟩ : ∃ only, attributeLists settings = [only] :=
    List.length_eq_one_iff.1 (Nat.le_antisymm honce (List.length_pos_of_mem hentries))
  rw [honly, List.mem_singleton] at hentries
  rw [built_attributes, honly, ← hentries]
  exact hrefers

/-- Attributes that refer to a group are replaced by none, and the group is still noted. -/
theorem not_groups_agree_of_replaced :
    ¬ (built "div" [.attributes [.group "#HTMLLinkAttrs"], .attributes []]).GroupsAgree := by
  rw [groups_agree_built_iff]
  intro h
  have hmentions : Mentions [.attributes [.group "#HTMLLinkAttrs"], .attributes []]
      "#HTMLLinkAttrs" := by decide
  exact absurd (h "#HTMLLinkAttrs" hmentions) (by decide)

end MarkupSemantics.ElementDef
