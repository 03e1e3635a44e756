import Mathlib.Data.List.Chain
import Mathlib.Order.WellFounded
import MarkupSemantics.Aria.Hierarchy

/-!
# Cycles among roles

A walk stops with an error exactly when it meets itself. `visit_error` says the names that it hands
out then are a cycle of declared roles, and `survey_ok_iff` that the survey of all roles ends
without an error exactly when the parent relation has no cycle.
-/

namespace MarkupSemantics.Aria

variable {roles : List Role} {path cycle : List String} {name parent : String} {role : Role}

/-- `Lists roles child parent` says `child` is declared and lists `parent` among the roles that it
specializes, whether `parent` is declared or not. -/
def Lists (roles : List Role) (child parent : String) : Prop :=
  ∃ role, findRole? roles child = some role ∧ parent ∈ role.generalization

/-- A parent is a name that is listed and declared. -/
theorem is_parent_iff {child : String} :
    IsParent roles parent child ↔ Lists roles child parent ∧ (findRole? roles parent).isSome := by
  constructor
  · rintro ⟨role, hrole, hparent, hdeclared⟩
    exact ⟨⟨role, hrole, hparent⟩, hdeclared⟩
  · rintro ⟨⟨role, hrole, hparent⟩, hdeclared⟩
    exact ⟨role, hrole, hparent, hdeclared⟩

/-- `IsCycle roles cycle` says `cycle` names declared roles that specialize one another in turn and
ends where it starts, and meets no other name twice. -/
structure IsCycle (roles : List Role) (cycle : List String) : Prop where
  /-- Each role specializes the next one. -/
  steps : cycle.IsChain fun child parent => IsParent roles parent child
  /-- There is at least one step. -/
  two_le : 2 ≤ cycle.length
  /-- The last name is the first one. -/
  closed : cycle.head? = cycle.getLast?
  /-- After the first name, no name occurs twice. -/
  distinct : cycle.tail.Nodup

/-- Along a cycle, a role is an ancestor of itself. -/
theorem IsCycle.exists_ancestor (h : IsCycle roles cycle) :
    ∃ name, Relation.TransGen (fun child parent => IsParent roles parent child) name name := by
  obtain ⟨hsteps, htwo, hclosed, _⟩ := h
  match cycle with
  | [] => simp at htwo
  | [_] => simp at htwo
  | first :: second :: rest =>
      have hlast : (second :: rest).getLast (by simp) = first := by
        simpa [List.getLast?_cons_cons, List.getLast?_eq_some_getLast] using hclosed.symm
      have hrest := List.relationReflTransGen_of_exists_isChain_cons rest
        (List.isChain_cons_cons.1 hsteps).2 hlast
      exact ⟨first, Relation.TransGen.head' (List.isChain_cons_cons.1 hsteps).1 hrest⟩

/-- Where no role has an endless chain of ancestors, no role is an ancestor of itself. -/
theorem not_exists_ancestor (h : WellFounded (IsParent roles)) :
    ¬ ∃ name, Relation.TransGen (fun child parent => IsParent roles parent child) name name := by
  rintro ⟨name, hname⟩
  exact h.transGen.irrefl.irrefl name (Relation.transGen_swap.1 hname)

namespace Hierarchy

/-- `LeadsTo roles path name` says a walk can come to `name` along `path`: the names of `path` are
declared and distinct, each lists the next one, and the last lists `name`. -/
structure LeadsTo (roles : List Role) (path : List String) (name : String) : Prop where
  /-- The names on the path are declared. -/
  declared : ∀ n ∈ path, (findRole? roles n).isSome
  /-- No name occurs twice on the path. -/
  distinct : path.Nodup
  /-- Each name lists the next one. -/
  steps : (path ++ [name]).IsChain (Lists roles)

/-- A walk can start anywhere. -/
theorem LeadsTo.nil (roles : List Role) (name : String) : LeadsTo roles [] name :=
  ⟨by simp, List.nodup_nil, List.isChain_singleton name⟩

/-- A walk that comes to a new declared role can go on to each name that the role lists. -/
theorem LeadsTo.push (h : LeadsTo roles path name) (hfresh : ¬ path.contains name = true)
    (hrole : findRole? roles name = some role) (hparent : parent ∈ role.generalization) :
    LeadsTo roles (path ++ [name]) parent := by
  have hnew : name ∉ path := by simpa using hfresh
  refine ⟨?_, ?_, ?_⟩
  · intro n hn
    rcases List.mem_append.1 hn with hn | hn
    · exact h.declared n hn
    · rw [List.mem_singleton.1 hn, hrole]
      rfl
  · exact List.nodup_append.2 ⟨h.distinct, by simp, by
      rintro a ha b hb rfl
      exact hnew (List.mem_singleton.1 hb ▸ ha)⟩
  · rw [List.append_assoc]
    exact List.isChain_append_cons_cons.2
      ⟨h.steps, ⟨role, hrole, hparent⟩, List.isChain_singleton parent⟩

/-- Where a walk meets its own path, the rest of the path is a cycle. -/
theorem LeadsTo.is_cycle (h : LeadsTo roles path name) (hmem : path.contains name = true) :
    IsCycle roles (cycleAt path name) := by
  obtain ⟨before, after, rfl, hbefore⟩ := List.eq_append_cons_of_mem (by simpa using hmem)
  have hcycle : cycleAt (before ++ name :: after) name = name :: after ++ [name] := by
    have hother : ∀ n ∈ before, (n != name) = true := by
      intro n hn
      simpa using ne_of_mem_of_not_mem hn hbefore
    rw [cycleAt, List.dropWhile_append_of_pos hother]
    simp
  have hsteps : (name :: after ++ [name]).IsChain (Lists roles) := by
    refine h.steps.suffix ⟨before, ?_⟩
    simp
  have hdeclared : ∀ n ∈ name :: after ++ [name], (findRole? roles n).isSome := by
    intro n hn
    refine h.declared n (List.mem_append_right _ ?_)
    rcases List.mem_append.1 hn with hn | hn
    · exact hn
    · exact List.mem_singleton.1 hn ▸ List.mem_cons_self
  rw [hcycle]
  -- a name that is listed is a parent as soon as it is declared, and all of the path is
  refine ⟨?_, by simp, by rw [List.getLast?_concat]; rfl, ?_⟩
  · exact hsteps.imp_of_mem_imp fun child parent _ hparent hlists =>
      is_parent_iff.2 ⟨hlists, hdeclared parent hparent⟩
  · have hnodup := (List.nodup_append.1 h.distinct).2.1
    obtain ⟨hfirst, hafter⟩ := List.nodup_cons.1 hnodup
    exact List.nodup_append.2 ⟨hafter, by simp, by
      rintro a ha b hb rfl
      exact hfirst (List.mem_singleton.1 hb ▸ ha)⟩

mutual
/-- A walk from a name that its path leads to fails only with a cycle. -/
theorem visit_error {roles : List Role} {path done : List String} {name : String}
    {cycle : List String} (h : visit roles path done name = .error cycle)
    (hpath : LeadsTo roles path name) : IsCycle roles cycle := by
  rw [visit] at h
  split at h
  · cases h
  · split at h
    · rename_i hmem
      cases h
      exact hpath.is_cycle hmem
    · rename_i hfresh
      split at h
      · cases h
      · rename_i role hrole
        have hlt := remaining_append_lt hrole hfresh
        split at h
        · cases h
        · rename_i inner hinner
          cases h
          -- whatever `done` skips, the path itself still leads to each listed name
          exact visit_all_error hinner fun parent hparent => hpath.push hfresh hrole hparent
termination_by (remaining roles path, 0)
decreasing_by
  exact Prod.Lex.left _ _ (by assumption)

/-- A walk from several names that its path leads to fails only with a cycle. -/
theorem visit_all_error {roles : List Role} {path done : List String} {names : List String}
    {cycle : List String} (h : visitAll roles path done names = .error cycle)
    (hpath : ∀ name ∈ names, LeadsTo roles path name) : IsCycle roles cycle := by
  match names with
  | [] =>
      rw [visitAll] at h
      cases h
  | name :: names =>
      rw [visitAll] at h
      split at h
      · exact visit_all_error h fun n hn => hpath n (List.mem_cons_of_mem _ hn)
      · rename_i inner hinner
        cases h
        exact visit_error hinner (hpath name List.mem_cons_self)
termination_by (remaining roles path, names.length + 1)
end

/-- A survey fails only with a cycle. -/
theorem survey_error (h : survey roles = .error cycle) : IsCycle roles cycle :=
  visit_all_error h fun name _ => LeadsTo.nil roles name

/-- A survey succeeds exactly when no role is an ancestor of itself. -/
theorem survey_ok_iff :
    (∃ done, survey roles = .ok done) ↔
      ¬ ∃ name, Relation.TransGen (fun child parent => IsParent roles parent child) name name := by
  constructor
  · rintro ⟨done, hdone⟩
    exact not_exists_ancestor (acyclic_of_survey hdone)
  · intro hacyclic
    cases hsurvey : survey roles with
    | ok done => exact ⟨done, rfl⟩
    | error cycle => exact absurd (survey_error hsurvey).exists_ancestor hacyclic

end Hierarchy

end MarkupSemantics.Aria
