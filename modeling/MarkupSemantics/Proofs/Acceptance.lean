import MarkupSemantics.Proofs.Lookup
import MarkupSemantics.Proofs.RoleCycle

/-!
# Which documents are accepted

A document has a repository exactly when the names of its elements are distinct and, in each version
of the vocabulary, the names of the roles are distinct and no role is an ancestor of itself. The
main statement is `of_document_ok_iff`; its conditions speak of the lists of the document only.
-/

namespace MarkupSemantics

variable {d : Document} {version : Aria.Version}

/-- The search for a repeated name finds none exactly when the names are distinct and new. -/
theorem first_repeat?_eq_none_iff {seen names : List String} :
    firstRepeat? seen names = none ↔ names.Nodup ∧ ∀ name ∈ names, name ∉ seen := by
  refine ⟨nodup_of_first_repeat?, ?_⟩
  rintro ⟨hnodup, hfresh⟩
  induction names generalizing seen with
  | nil => rfl
  | cons name names ih =>
      obtain ⟨hname, hnames⟩ := List.nodup_cons.1 hnodup
      have hseen : ¬ seen.contains name = true := by simpa using hfresh name List.mem_cons_self
      rw [firstRepeat?, if_neg hseen]
      refine ih hnames fun other hother => ?_
      rw [List.mem_cons, not_or]
      exact ⟨ne_of_mem_of_not_mem hother hname, hfresh other (List.mem_cons_of_mem _ hother)⟩

namespace Document

/-- `d.Specializes version child parent` says `version` of `d` declares a role `child` that lists
`parent` among the roles it specializes, and declares `parent` too. -/
def Specializes (d : Document) (version : Aria.Version) (child parent : String) : Prop :=
  (∃ role ∈ (d.aria version).roles ++ (d.aria version).graphicsRoles,
    role.name = child ∧ parent ∈ role.generalization) ∧ parent ∈ d.roleNames version

/-- `d.HasRoleCycle version` says some role of `version` is reached from itself by one or more steps
to a role that it specializes. -/
def HasRoleCycle (d : Document) (version : Aria.Version) : Prop :=
  ∃ name, Relation.TransGen (d.Specializes version) name name

/-- Where the names of roles are distinct, to specialize is to have a parent. -/
theorem specializes_iff_is_parent (h : (d.roleNames version).Nodup) {child parent : String} :
    d.Specializes version child parent ↔
      Aria.IsParent (d.aria version).allRoles parent child := by
  rw [Aria.is_parent_iff, Aria.find_role?_is_some_iff]
  refine and_congr_left fun _ => exists_congr fun role => ?_
  rw [Aria.find_role?_eq_some_iff h, and_assoc]
  rfl

/-- There is a cycle exactly if some role is its own ancestor by steps to parents. -/
theorem has_role_cycle_iff (h : (d.roleNames version).Nodup) :
    d.HasRoleCycle version ↔ ∃ name, Relation.TransGen
      (fun child parent => Aria.IsParent (d.aria version).allRoles parent child) name name := by
  have hsame : d.Specializes version =
      fun child parent => Aria.IsParent (d.aria version).allRoles parent child := by
    funext child parent
    exact propext (specializes_iff_is_parent h)
  rw [HasRoleCycle, hsame]

/-- The roles of a version have no defect exactly when their names are distinct and they have no
cycle. -/
theorem role_defect?_eq_none_iff :
    d.roleDefect? version = none ↔ (d.roleNames version).Nodup ∧ ¬ d.HasRoleCycle version := by
  constructor
  · intro h
    obtain ⟨hnodup, hwf⟩ := role_defect?_eq_none h
    refine ⟨hnodup, ?_⟩
    rw [has_role_cycle_iff hnodup]
    exact Aria.not_exists_ancestor hwf
  · rintro ⟨hnodup, hacyclic⟩
    rw [has_role_cycle_iff hnodup] at hacyclic
    obtain ⟨done, hdone⟩ := Aria.Hierarchy.survey_ok_iff.2 hacyclic
    have hrepeat : firstRepeat? [] (d.roleNames version) = none :=
      first_repeat?_eq_none_iff.2 ⟨hnodup, by simp⟩
    rw [roleDefect?, hrepeat, hdone]

/-- A document has no defect exactly when names are distinct and roles have no cycle. -/
theorem defect?_eq_none_iff :
    d.defect? = none ↔ d.elementNames.Nodup ∧
      ∀ version, (d.roleNames version).Nodup ∧ ¬ d.HasRoleCycle version := by
  constructor
  · intro h
    refine ⟨nodup_of_defect? h, fun version => ?_⟩
    exact role_defect?_eq_none_iff.1 (role_defect?_of_defect? h version)
  · rintro ⟨hnodup, hroles⟩
    have hrepeat : firstRepeat? [] d.elementNames = none :=
      first_repeat?_eq_none_iff.2 ⟨hnodup, by simp⟩
    rw [defect?, hrepeat]
    exact Option.or_eq_none_iff.2
      ⟨role_defect?_eq_none_iff.2 (hroles .v11), role_defect?_eq_none_iff.2 (hroles .v12)⟩

end Document

namespace Repository

/-- A repository is made of a document exactly when the document has no defect. -/
theorem exists_of_document_iff : (∃ r, ofDocument d = .ok r) ↔ d.defect? = none := by
  unfold ofDocument
  split
  · rename_i defect hdefect
    simp [hdefect]
  · rename_i hdefect
    simp [hdefect]

/-- The repository of a document holds the document. -/
theorem document_of_ok {r : Repository} (h : ofDocument d = .ok r) : r.document = d := by
  unfold ofDocument at h
  split at h
  · cases h
  · cases h
    rfl

/-- The roles of an accepted document have no cycle. -/
theorem not_has_role_cycle (r : Repository) (version : Aria.Version) :
    ¬ r.document.HasRoleCycle version := by
  rw [Document.has_role_cycle_iff (r.roles_distinct version)]
  exact Aria.not_exists_ancestor (r.acyclic version)

/-- The document of a repository has no defect. -/
theorem defect?_document (r : Repository) : r.document.defect? = none :=
  Document.defect?_eq_none_iff.2 ⟨r.elements_distinct, fun version =>
    ⟨r.roles_distinct version, r.not_has_role_cycle version⟩⟩

/-- A document has a repository, which then holds it unchanged, exactly when no two of its elements
share a name and, in each version, no two core or graphics roles share a name and no role is reached
from itself along declared roles. A name that is listed but not declared is no step. -/
theorem of_document_ok_iff (d : Document) :
    ((∃ r, ofDocument d = .ok r) ↔
      (d.elements.map (·.name)).Nodup ∧
        ∀ version,
          (((d.aria version).roles ++ (d.aria version).graphicsRoles).map (·.name)).Nodup ∧
            ¬ d.HasRoleCycle version) ∧
      ∀ r, ofDocument d = .ok r → r.document = d := by
  refine ⟨?_, fun r h => document_of_ok h⟩
  rw [exists_of_document_iff]
  exact Document.defect?_eq_none_iff

end Repository

end MarkupSemantics
