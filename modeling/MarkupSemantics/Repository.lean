import MarkupSemantics.Aria.Hierarchy
import MarkupSemantics.Document

/-!
# Repositories

A repository is a document in which elements and roles can be looked up by name: no two elements
and no two roles of a version share a name, and the parent relation of roles is well founded.
`Repository.ofDocument` builds the repository of a document or names the first defect.
-/

namespace MarkupSemantics

/-- Why a document has no repository. -/
inductive Defect where
  /-- Two elements are called `name`. -/
  | duplicateElement (name : String)
  /-- Two roles of one version are called `name`. -/
  | duplicateRole (version : Aria.Version) (name : String)
  /-- Each role of `cycle` specializes the next one, and the last is the first. -/
  | cyclicGeneralization (version : Aria.Version) (cycle : List String)
  deriving DecidableEq, Repr

namespace Defect

/-- `d.message` describes the defect `d`. -/
def message : Defect → String
  | duplicateElement name => "duplicate element spec \x60" ++ name ++ "\x60"
  | duplicateRole version name =>
    "duplicate WAI-ARIA " ++ version.number ++ " role \x60" ++ name ++ "\x60"
  | cyclicGeneralization version cycle =>
    "cyclic WAI-ARIA " ++ version.number ++ " role generalization: " ++ " -> ".intercalate cycle

end Defect

/-- `firstRepeat? seen names` is the first of `names` that occurs before, or among `seen`. -/
def firstRepeat? (seen : List String) : List String → Option String
  | [] => none
  | name :: names => if seen.contains name then some name else firstRepeat? (name :: seen) names

/-- Without a repeated name, the names are distinct. -/
theorem nodup_of_first_repeat? {seen names : List String} (h : firstRepeat? seen names = none) :
    names.Nodup ∧ ∀ name ∈ names, name ∉ seen := by
  induction names generalizing seen with
  | nil => simp
  | cons name names ih =>
    rw [firstRepeat?] at h
    split at h
    · cases h
    · rename_i hseen
      obtain ⟨hnodup, hfresh⟩ := ih h
      refine ⟨List.nodup_cons.2 ⟨fun hmem => hfresh name hmem List.mem_cons_self, hnodup⟩, ?_⟩
      intro other hother
      rcases List.mem_cons.1 hother with rfl | hother
      · simpa using hseen
      · exact fun hmem => hfresh other hother (List.mem_cons_of_mem _ hmem)

namespace Document

/-- `elementNames d` lists the names of the elements of `d`. -/
def elementNames (d : Document) : List String :=
  d.elements.map (·.name)

/-- `roleNames d version` lists the names of the roles of `version`. -/
def roleNames (d : Document) (version : Aria.Version) : List String :=
  (d.aria version).allRoles.map (·.name)

/-- `d.roleDefect? version` is the first defect among the roles of `version`; a repeated name comes
before a cycle. -/
def roleDefect? (d : Document) (version : Aria.Version) : Option Defect :=
  match firstRepeat? [] (d.roleNames version) with
  | some name => some (.duplicateRole version name)
  | none =>
    match Aria.Hierarchy.survey (d.aria version).allRoles with
    | .error cycle => some (.cyclicGeneralization version cycle)
    | .ok _ => none

/-- `d.defect? ` is the first defect of `d`: elements come before roles, and the earlier version
before the later one. -/
def defect? (d : Document) : Option Defect :=
  match firstRepeat? [] d.elementNames with
  | some name => some (.duplicateElement name)
  | none => (d.roleDefect? .v11).or (d.roleDefect? .v12)

/-- Roles without a defect have distinct names and no endless chain of ancestors. -/
theorem role_defect?_eq_none {d : Document} {version : Aria.Version}
    (h : d.roleDefect? version = none) :
    (d.roleNames version).Nodup ∧ WellFounded (Aria.IsParent (d.aria version).allRoles) := by
  unfold roleDefect? at h
  split at h
  · cases h
  · rename_i hrepeat
    split at h
    · cases h
    · rename_i done hsurvey
      exact ⟨(nodup_of_first_repeat? hrepeat).1, Aria.Hierarchy.acyclic_of_survey hsurvey⟩

/-- The elements of a document without a defect have distinct names. -/
theorem nodup_of_defect? {d : Document} (h : d.defect? = none) : d.elementNames.Nodup := by
  unfold defect? at h
  split at h
  · cases h
  · rename_i hrepeat
    exact (nodup_of_first_repeat? hrepeat).1

/-- A document without a defect has none among the roles of either version. -/
theorem role_defect?_of_defect? {d : Document} (h : d.defect? = none) (version : Aria.Version) :
    d.roleDefect? version = none := by
  unfold defect? at h
  split at h
  · cases h
  · obtain ⟨h11, h12⟩ := Option.or_eq_none_iff.1 h
    cases version
    · exact h11
    · exact h12

/-- `index d` maps the name of each element to its definition. -/
def index (d : Document) : StringMap ElementDef :=
  StringMap.ofList (d.elements.map fun element => (element.name, element))

end Document

/-- A document whose names identify elements and roles. -/
structure Repository where
  /-- The document. -/
  document : Document
  /-- The elements by name. -/
  index : StringMap ElementDef := document.index
  /-- The index is the one of the document. -/
  index_eq : index = document.index := by rfl
  /-- No two elements share a name. -/
  elements_distinct : document.elementNames.Nodup
  /-- No two roles of one version share a name. -/
  roles_distinct : ∀ version, (document.roleNames version).Nodup
  /-- No role has an endless chain of ancestors. -/
  acyclic : ∀ version, WellFounded (Aria.IsParent (document.aria version).allRoles)

namespace Repository

/-- `ofDocument d` is the repository of `d`, or the first defect of `d`. -/
def ofDocument (d : Document) : Except Defect Repository :=
  match h : d.defect? with
  | some defect => .error defect
  | none => .ok {
      document := d
      elements_distinct := Document.nodup_of_defect? h
      roles_distinct := fun version =>
        (Document.role_defect?_eq_none (Document.role_defect?_of_defect? h version)).1
      acyclic := fun version =>
        (Document.role_defect?_eq_none (Document.role_defect?_of_defect? h version)).2 }

/-- `r.element? name` is the element with the qualified name `name`. -/
def element? (r : Repository) (name : String) : Option ElementDef :=
  r.index.get? name

/-- `r.elementIn? localName ns` is the element with the given local name in the namespace `ns`. -/
def elementIn? (r : Repository) (localName : String) (ns : Namespace) : Option ElementDef :=
  r.element? (qualifiedName ns localName)

/-- `r.group? name` is the group of attributes called `name`. -/
def group? (r : Repository) (name : String) : Option (List AttributeDef) :=
  r.document.definitions.attributeGroups.get? name

/-- `r.contentModel? name` lists the elements in the category `name`. -/
def contentModel? (r : Repository) (name : String) : Option (List String) :=
  r.document.definitions.contentModels.get? name

/-- `r.aria version` is the vocabulary of `version`. -/
def aria (r : Repository) (version : Aria.Version) : Aria.Vocabulary :=
  r.document.aria version

/-- `r.role? version name` is the role called `name`. -/
def role? (r : Repository) (version : Aria.Version) (name : String) : Option Aria.Role :=
  (r.aria version).role? name

/-- `r.property? version name` is the property called `name`. -/
def property? (r : Repository) (version : Aria.Version) (name : String) : Option Aria.Property :=
  (r.aria version).property? name

end Repository

end MarkupSemantics
