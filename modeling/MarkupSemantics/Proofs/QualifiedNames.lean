import MarkupSemantics.Repository

/-!
# Qualified names and namespaces

Four rules deal with what stands before the first colon of a name: a namespace writes a qualifier
before a local part, a name is split at a known qualifier, a new definition takes its namespace from
its name, and a look-up by local part and namespace puts the name together again. `IsQualified` says
where the first colon is, and the lemmas after it what the rules do there. The main statement is
`namespaces_of_names`.
-/

namespace MarkupSemantics

/-- `IsQualified name qualifier localName` says `name` is `qualifier` and `localName` with the first
colon of `name` between them. -/
structure IsQualified (name qualifier localName : String) : Prop where
  /-- The colon stands between the two parts. -/
  name_eq : name = qualifier ++ ":" ++ localName
  /-- It is the first one. -/
  colon_not_mem : ':' ∉ qualifier.toList

variable {name qualifier localName : String} {ns : Namespace}

/-- A qualified name is cut into its qualifier and its local name. -/
theorem IsQualified.split_first (h : IsQualified name qualifier localName) :
    Text.splitFirst ':' name.toList = some (qualifier.toList, localName.toList) := by
  refine Text.split_first_eq_some.2 ⟨?_, h.colon_not_mem⟩
  rw [h.name_eq, String.toList_append, String.toList_append, List.append_assoc]
  rfl

/-- A name that is cut at a colon is qualified. -/
theorem is_qualified_of_split_first {before after : List Char}
    (h : Text.splitFirst ':' name.toList = some (before, after)) :
    IsQualified name (String.ofList before) (String.ofList after) := by
  obtain ⟨hname, hbefore⟩ := Text.split_first_eq_some.1 h
  refine ⟨String.toList_inj.1 ?_, by rwa [String.toList_ofList]⟩
  rw [hname, String.toList_append, String.toList_append, String.toList_ofList,
    String.toList_ofList]
  simp

/-- A name has one first colon or no colon. -/
theorem is_qualified_or_split_first_eq_none (name : String) :
    (∃ qualifier localName, IsQualified name qualifier localName) ∨
      Text.splitFirst ':' name.toList = none := by
  cases h : Text.splitFirst ':' name.toList with
  | none => exact .inr rfl
  | some parts => exact .inl ⟨_, _, is_qualified_of_split_first h⟩

namespace Namespace

/-- A name is split at the qualifiers that namespaces write, and at one more for MathML. -/
theorem of_qualifier?_eq_some_iff :
    ofQualifier? qualifier = some ns ↔
      ns.qualifier? = some qualifier ∨ qualifier = "math" ∧ ns = .mathML := by
  constructor
  · intro h
    unfold ofQualifier? at h
    split at h
    · cases h
      exact .inl rfl
    · cases h
      exact .inl rfl
    · cases h
      exact .inr ⟨rfl, rfl⟩
    · cases h
      exact .inl rfl
    · cases h
  · rintro (h | ⟨rfl, rfl⟩)
    · cases ns with
      | html => cases h
      | svg => cases h; rfl
      | mathML => cases h; rfl
      | xlink => cases h; rfl
    · rfl

/-- Qualifiers have no colon. -/
theorem colon_not_mem_of_of_qualifier? (h : ofQualifier? qualifier = some ns) :
    ':' ∉ qualifier.toList := by
  unfold ofQualifier? at h
  split at h
  · decide
  · decide
  · decide
  · decide
  · cases h

/-- Every namespace but the one of HTML has a qualifier. -/
theorem exists_qualifier?_of_ne_html (h : ns ≠ .html) :
    ∃ qualifier, ns.qualifier? = some qualifier := by
  cases ns with
  | html => exact absurd rfl h
  | svg => exact ⟨_, rfl⟩
  | mathML => exact ⟨_, rfl⟩
  | xlink => exact ⟨_, rfl⟩

end Namespace

/-- A known qualifier is taken off, whatever follows its colon. -/
theorem split_name_qualified (h : Namespace.ofQualifier? qualifier = some ns) :
    splitName (qualifier ++ ":" ++ localName) = (localName, ns) := by
  have hqualified : IsQualified (qualifier ++ ":" ++ localName) qualifier localName :=
    ⟨rfl, Namespace.colon_not_mem_of_of_qualifier? h⟩
  rw [splitName, hqualified.split_first]
  simp only [String.ofList_toList, h]

/-- `HasNamespace name localName ns` says a known qualifier of `ns` stands before `localName` in
`name`. -/
def HasNamespace (name localName : String) (ns : Namespace) : Prop :=
  ∃ qualifier, Namespace.ofQualifier? qualifier = some ns ∧ name = qualifier ++ ":" ++ localName

/-- A name with a known qualifier is split after it, and all other names are HTML names. -/
theorem split_name_eq_iff :
    splitName name = (localName, ns) ↔
      HasNamespace name localName ns ∨
        (¬∃ localName ns, HasNamespace name localName ns) ∧ localName = name ∧ ns = .html := by
  have hsplit : ∀ {localName ns}, HasNamespace name localName ns →
      splitName name = (localName, ns) := by
    rintro localName ns ⟨qualifier, hns, rfl⟩
    exact split_name_qualified hns
  -- otherwise no namespace goes with what stands before the first colon, if there is one
  have hwhole : (¬∃ localName ns, HasNamespace name localName ns) →
      splitName name = (name, .html) := by
    intro hplain
    rcases is_qualified_or_split_first_eq_none name with ⟨qualifier, localName, h⟩ | h
    · have hunknown : Namespace.ofQualifier? qualifier = none := by
        rw [Option.eq_none_iff_forall_ne_some]
        exact fun ns hns => hplain ⟨localName, ns, qualifier, hns, h.name_eq⟩
      rw [splitName, h.split_first]
      simp only [String.ofList_toList, hunknown]
    · rw [splitName, h]
  constructor
  · intro h
    by_cases hnamespace : ∃ localName ns, HasNamespace name localName ns
    · obtain ⟨other, otherNs, hother⟩ := hnamespace
      cases (hsplit hother).symm.trans h
      exact .inl hother
    · cases (hwhole hnamespace).symm.trans h
      exact .inr ⟨hnamespace, rfl, rfl⟩
  · rintro (h | ⟨hplain, rfl, rfl⟩)
    · exact hsplit h
    · exact hwhole hplain

/-! ### New definitions -/

/-- Of the qualifiers at which a name is split, a new definition knows all but the one of XLink. -/
theorem Namespace.eq_xlink_of_of_qualifier? (h : ofQualifier? qualifier = some ns)
    (hsvg : qualifier ≠ "svg") (hmml : qualifier ≠ "mml") (hmath : qualifier ≠ "math") :
    ns = .xlink := by
  rcases of_qualifier?_eq_some_iff.1 h with hwritten | ⟨hother, -⟩
  · cases ns with
    | html => cases hwritten
    | svg => exact absurd (Option.some.inj hwritten).symm hsvg
    | mathML => exact absurd (Option.some.inj hwritten).symm hmml
    | xlink => rfl
  · exact absurd hother hmath

/-- A new definition has the namespace that the qualifier of its name stands for, if that is SVG or
MathML. -/
theorem ElementDef.namespace_of_eq_some_iff :
    namespaceOf name = some ns ↔ (splitName name).2 = ns ∧ (ns = .svg ∨ ns = .mathML) := by
  rcases is_qualified_or_split_first_eq_none name with ⟨qualifier, localName, h⟩ | h
  · rw [namespaceOf, splitName, h.split_first]
    simp only [String.ofList_toList]
    split
    · cases ns <;> simp [Namespace.ofQualifier?]
    · cases ns <;> simp [Namespace.ofQualifier?]
    · cases ns <;> simp [Namespace.ofQualifier?]
    · rename_i hsvg hmml hmath
      cases hns : Namespace.ofQualifier? qualifier with
      | none => cases ns <;> simp
      | some other =>
          cases Namespace.eq_xlink_of_of_qualifier? hns hsvg hmml hmath
          cases ns <;> simp
  · rw [namespaceOf, splitName, h]
    cases ns <;> simp

/-! ### Look-ups -/

namespace Repository

/-- A look-up by what a name is split into finds what the name finds, unless the name begins with
the second qualifier of MathML. -/
theorem element_in?_split_name (r : Repository) (h : ∀ rest, name ≠ "math:" ++ rest) :
    r.elementIn? (splitName name).1 (splitName name).2 = r.element? name := by
  obtain ⟨localName, ns, hsplit⟩ : ∃ localName ns, splitName name = (localName, ns) :=
    ⟨_, _, rfl⟩
  rw [hsplit, elementIn?, qualifiedName]
  rcases split_name_eq_iff.1 hsplit with ⟨qualifier, hns, hname⟩ | ⟨-, rfl, rfl⟩
  · rcases Namespace.of_qualifier?_eq_some_iff.1 hns with hwritten | ⟨rfl, -⟩
    · rw [hwritten, hname]
    · exact absurd hname (h localName)
  · rfl

/-- The second qualifier of MathML is taken for the first one. -/
theorem element_in?_split_name_math (r : Repository) (rest : String) :
    r.elementIn? (splitName ("math:" ++ rest)).1 (splitName ("math:" ++ rest)).2 =
      r.element? ("mml:" ++ rest) := by
  have hsplit : splitName ("math:" ++ rest) = (rest, .mathML) :=
    split_name_eq_iff.2 (.inl ⟨"math", rfl, rfl⟩)
  rw [hsplit]
  rfl

end Repository

/-- A name made of the qualifier of a namespace, a colon and any text is split into that text and
the namespace. The two parts of a name find the element with the name, except for a name that begins
with the second qualifier of MathML: that finds what the name with the first one finds. A new
definition has the namespace of its name if that is SVG or MathML, and none otherwise. -/
theorem namespaces_of_names :
    (∀ ns : Namespace, ns ≠ .html → ∃ qualifier, ns.qualifier? = some qualifier ∧
      ∀ localName, splitName (qualifier ++ ":" ++ localName) = (localName, ns)) ∧
    (∀ (r : Repository) (name : String),
      ((∀ rest, name ≠ "math:" ++ rest) →
        r.elementIn? (splitName name).1 (splitName name).2 = r.element? name) ∧
      ∀ rest, name = "math:" ++ rest →
        r.elementIn? (splitName name).1 (splitName name).2 = r.element? ("mml:" ++ rest)) ∧
    ∀ (name : String) (ns : Namespace), (ElementDef.named name).ns = some ns ↔
      (splitName name).2 = ns ∧ (ns = .svg ∨ ns = .mathML) := by
  refine ⟨fun ns hns => ?_, fun r name => ⟨fun hother => ?_, ?_⟩, fun name ns => ?_⟩
  · obtain ⟨qualifier, hqualifier⟩ := Namespace.exists_qualifier?_of_ne_html hns
    refine ⟨qualifier, hqualifier, fun localName => split_name_qualified ?_⟩
    exact Namespace.of_qualifier?_eq_some_iff.2 (.inl hqualifier)
  · exact r.element_in?_split_name hother
  · rintro rest rfl
    exact r.element_in?_split_name_math rest
  · exact ElementDef.namespace_of_eq_some_iff

end MarkupSemantics
