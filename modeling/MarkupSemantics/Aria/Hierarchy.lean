import MarkupSemantics.Aria.Role

/-!
# The hierarchy of roles

Roles specialize other roles, their parents. A parent that is not declared ends the hierarchy.
`visit` walks from a role to all its ancestors, depth first, and stops at the first cycle;
`acyclic_of_survey` says that the parent relation is well founded when no walk meets a cycle.
-/

namespace MarkupSemantics.Aria

/-- `IsParent roles parent child` says `child` is declared and specializes `parent`, which is
declared too. -/
def IsParent (roles : List Role) (parent child : String) : Prop :=
  ∃ role, findRole? roles child = some role ∧ parent ∈ role.generalization ∧
    (findRole? roles parent).isSome

namespace Hierarchy

/-- `cycleAt path name` is the part of `path` from `name` on, closed by `name`. -/
def cycleAt (path : List String) (name : String) : List String :=
  path.dropWhile (· != name) ++ [name]

/-- `remaining roles path` is the number of `roles` that are not on `path`. -/
def remaining (roles : List Role) (path : List String) : Nat :=
  roles.countP fun role => !path.contains role.name

/-- A path that gets longer leaves no more names to walk to. -/
theorem remaining_append_le (roles : List Role) (path : List String) (name : String) :
    remaining roles (path ++ [name]) ≤ remaining roles path := by
  apply List.countP_mono_left
  intro role _ h
  simp only [List.contains_append, Bool.not_or, Bool.and_eq_true] at h
  exact h.1

/-- A declared role that joins the path leaves fewer roles. -/
theorem remaining_append_lt {roles : List Role} {path : List String} {name : String} {role : Role}
    (hrole : findRole? roles name = some role) (hpath : ¬ path.contains name = true) :
    remaining roles (path ++ [name]) < remaining roles path := by
  induction roles with
  | nil => simp [findRole?] at hrole
  | cons head tail ih =>
    have htail := remaining_append_le tail path name
    by_cases hhead : head.name = name
    · have hbefore : (!path.contains head.name) = true := by simpa [hhead] using hpath
      have hafter : (!(path ++ [name]).contains head.name) = false := by simp [hhead]
      simp only [remaining, List.countP_cons, hbefore, hafter] at htail ⊢
      simp only [if_true, Bool.false_eq_true, if_false]
      omega
    · have hfound : findRole? tail name = some role := by
        simpa [findRole?, List.find?_cons, hhead] using hrole
      have hsame : (!(path ++ [name]).contains head.name) = (!path.contains head.name) := by
        simp [hhead]
      have hlt := ih hfound
      simp only [remaining, List.countP_cons, hsame] at hlt ⊢
      omega

mutual
/-- `visit roles path done name` walks from `name` to its ancestors. The names on `path` lead to
`name`, the nearest last; those in `done` need no more visits. The result is `done` with the
declared names met on the way, or a cycle. -/
def visit (roles : List Role) (path done : List String) (name : String) :
    Except (List String) (List String) :=
  if done.contains name then .ok done
  else if _hpath : path.contains name then .error (cycleAt path name)
  else
    match _hrole : findRole? roles name with
    | none => .ok done
    | some role =>
      match visitAll roles (path ++ [name]) done role.generalization with
      | .ok done => .ok (name :: done)
      | .error cycle => .error cycle
termination_by (remaining roles path, 0)
decreasing_by
  exact Prod.Lex.left _ _ (remaining_append_lt _hrole _hpath)

/-- `visitAll roles path done names` walks from each of `names` in turn. -/
def visitAll (roles : List Role) (path done : List String) :
    List String → Except (List String) (List String)
  | [] => .ok done
  | name :: names =>
    match visit roles path done name with
    | .ok done => visitAll roles path done names
    | .error cycle => .error cycle
termination_by names => (remaining roles path, names.length + 1)
end

/-- `survey roles` walks from every role, or finds the first cycle. -/
def survey (roles : List Role) : Except (List String) (List String) :=
  visitAll roles [] [] (roles.map (·.name))

/-- A list of finished names, in which each name stands before its declared parents. -/
inductive Settled (roles : List Role) : List String → Prop where
  | nil : Settled roles []
  | cons {name : String} {done : List String} :
      (∀ parent, IsParent roles parent name → parent ∈ done) → Settled roles done →
      Settled roles (name :: done)

/-- A settled name has only finitely many generations of ancestors. -/
theorem Settled.acc {roles : List Role} {done : List String} (h : Settled roles done) :
    ∀ name ∈ done, Acc (IsParent roles) name := by
  induction h with
  | nil => simp
  | cons hparents _ ih =>
    intro name hname
    rcases List.mem_cons.1 hname with rfl | hname
    · exact ⟨_, fun parent hparent => ih parent (hparents parent hparent)⟩
    · exact ih name hname

/-- What a walk that meets no cycle adds: it keeps the finished names and settles the declared ones
among `names`. -/
structure Settles (roles : List Role) (done : List String) (names : List String)
    (done' : List String) : Prop where
  /-- The result is settled. -/
  settled : Settled roles done'
  /-- Nothing is lost. -/
  subset : done ⊆ done'
  /-- The declared names are finished. -/
  covers : ∀ name ∈ names, (findRole? roles name).isSome → name ∈ done'

mutual
/-- A walk that ends without an error settles the name at which it starts. -/
theorem visit_settles {roles : List Role} {path done : List String} {name : String}
    {done' : List String} (h : visit roles path done name = .ok done')
    (hdone : Settled roles done) : Settles roles done [name] done' := by
  rw [visit] at h
  split at h
  · rename_i hmem
    cases h
    refine ⟨hdone, List.Subset.refl _, fun n hn _ => ?_⟩
    rw [List.mem_singleton.1 hn]
    simpa using hmem
  · split at h
    · cases h
    · rename_i hpath
      split at h
      · rename_i hrole
        cases h
        refine ⟨hdone, List.Subset.refl _, fun n hn hdeclared => ?_⟩
        rw [List.mem_singleton.1 hn, hrole] at hdeclared
        cases hdeclared
      · rename_i role hrole
        have hlt := remaining_append_lt hrole hpath
        split at h
        · rename_i inner hinner
          cases h
          have hall := visit_all_settles hinner hdone
          refine ⟨.cons ?_ hall.settled, fun n hn => List.mem_cons_of_mem _ (hall.subset hn),
            fun n hn _ => ?_⟩
          · rintro parent ⟨role', hrole', hparent, hdeclared⟩
            rw [hrole] at hrole'
            cases hrole'
            exact hall.covers parent hparent hdeclared
          · rw [List.mem_singleton.1 hn]
            exact List.mem_cons_self
        · cases h
termination_by (remaining roles path, 0)
decreasing_by
  exact Prod.Lex.left _ _ (by assumption)

/-- Walks from several names settle all of them. -/
theorem visit_all_settles {roles : List Role} {path done : List String} {names : List String}
    {done' : List String} (h : visitAll roles path done names = .ok done')
    (hdone : Settled roles done) : Settles roles done names done' := by
  match names with
  | [] =>
    rw [visitAll] at h
    cases h
    exact ⟨hdone, List.Subset.refl _, by simp⟩
  | name :: names =>
    rw [visitAll] at h
    split at h
    · rename_i first hfirst
      have hhead := visit_settles hfirst hdone
      have htail := visit_all_settles h hhead.settled
      refine ⟨htail.settled, fun n hn => htail.subset (hhead.subset hn), fun n hn hdeclared => ?_⟩
      rcases List.mem_cons.1 hn with rfl | hn
      · exact htail.subset (hhead.covers n (List.mem_singleton.2 rfl) hdeclared)
      · exact htail.covers n hn hdeclared
    · cases h
termination_by (remaining roles path, names.length + 1)
end

/-- Without a cycle, no role has an endless chain of ancestors. -/
theorem acyclic_of_survey {roles : List Role} {done : List String}
    (h : survey roles = .ok done) : WellFounded (IsParent roles) := by
  have hsettles := visit_all_settles h .nil
  refine ⟨fun name => ⟨name, fun parent hparent => ?_⟩⟩
  obtain ⟨role, hrole, _, hdeclared⟩ := hparent
  refine hsettles.settled.acc parent (hsettles.covers parent ?_ hdeclared)
  obtain ⟨found, hfound⟩ := Option.isSome_iff_exists.1 hdeclared
  have hname : found.name = parent := by simpa using List.find?_some hfound
  exact hname ▸ List.mem_map_of_mem (List.mem_of_find?_eq_some hfound)

end Hierarchy

end MarkupSemantics.Aria
