import MarkupSemantics.Proofs.RoleCycle

/-!
# A walk from one role

`Walks` is the walk through the hierarchy as it stands, without a measure, and with the path and the
finished names as its state: a role goes onto the path, the names that it lists are walked from in
turn, and then the role leaves the path and is finished. `walks_iff` says that the walk ends from
every state, and with what `visit` computes. The main statement is `walk_of_ready`: from a state
that a walk can be in, it fails exactly if there is something to fail at, and otherwise finishes
exactly what it reaches.
-/

namespace MarkupSemantics.Aria.Hierarchy

mutual
/-- `Walks roles path done name outcome` says a walk from `name` ends with `outcome`: the path and
the finished names that it leaves, or a cycle. -/
inductive Walks (roles : List Role) : List String → List String → String →
    Except (List String) (List String × List String) → Prop where
  | finished (path done name) : name ∈ done → Walks roles path done name (.ok (path, done))
  | closed (path done name) :
      name ∉ done → name ∈ path → Walks roles path done name (.error (cycleAt path name))
  | undeclared (path done name) :
      name ∉ done → name ∉ path → findRole? roles name = none →
      Walks roles path done name (.ok (path, done))
  | declared (path done name role path' done') :
      name ∉ done → name ∉ path → findRole? roles name = some role →
      WalksAll roles (path ++ [name]) done role.generalization (.ok (path', done')) →
      Walks roles path done name (.ok (path'.dropLast, name :: done'))
  | failed (path done name role cycle) :
      name ∉ done → name ∉ path → findRole? roles name = some role →
      WalksAll roles (path ++ [name]) done role.generalization (.error cycle) →
      Walks roles path done name (.error cycle)

/-- `WalksAll roles path done names outcome` says walks from `names`, one after another, end with
`outcome`. Each starts in the state that the one before leaves, and an error ends them all. -/
inductive WalksAll (roles : List Role) : List String → List String → List String →
    Except (List String) (List String × List String) → Prop where
  | nil (path done) : WalksAll roles path done [] (.ok (path, done))
  | cons (path done name names path' done' outcome) :
      Walks roles path done name (.ok (path', done')) →
      WalksAll roles path' done' names outcome →
      WalksAll roles path done (name :: names) outcome
  | stop (path done name names cycle) :
      Walks roles path done name (.error cycle) →
      WalksAll roles path done (name :: names) (.error cycle)
end

variable {roles : List Role} {path path' done done' names cycle : List String}
  {name n parent : String} {role : Role}
  {outcome : Except (List String) (List String × List String)}

/-! ### Every walk ends -/

/-- A walk ends at a finished name and adds nothing. -/
theorem visit_finished (hdone : name ∈ done) : visit roles path done name = .ok done := by
  rw [visit, if_pos (by simpa using hdone)]

/-- A walk that comes back to its path ends with the cycle. -/
theorem visit_closed (hnew : name ∉ done) (hpath : name ∈ path) :
    visit roles path done name = .error (cycleAt path name) := by
  rw [visit, if_neg (by simpa using hnew), dif_pos (by simpa using hpath)]

/-- A walk ends at a name that is not declared and adds nothing. -/
theorem visit_undeclared (hnew : name ∉ done) (hfresh : name ∉ path)
    (hrole : findRole? roles name = none) : visit roles path done name = .ok done := by
  rw [visit, if_neg (by simpa using hnew), dif_neg (by simpa using hfresh)]
  split
  · rfl
  · rename_i found hfound
    rw [hrole] at hfound
    cases hfound

/-- A declared role is finished after the names that it lists. -/
theorem visit_declared (hnew : name ∉ done) (hfresh : name ∉ path)
    (hrole : findRole? roles name = some role) :
    visit roles path done name =
      (visitAll roles (path ++ [name]) done role.generalization).map (name :: ·) := by
  rw [visit, if_neg (by simpa using hnew), dif_neg (by simpa using hfresh)]
  split
  · rename_i hnone
    rw [hrole] at hnone
    cases hnone
  · rename_i found hfound
    obtain rfl := Option.some.inj (hrole.symm.trans hfound)
    cases visitAll roles (path ++ [name]) done role.generalization <;> rfl

/-- A walk from no names adds nothing. -/
theorem visit_all_nil : visitAll roles path done [] = .ok done := by
  rw [visitAll]

/-- Names are visited in turn, as long as there is no cycle. -/
theorem visit_all_cons : visitAll roles path done (name :: names) =
    (visit roles path done name).bind fun done => visitAll roles path done names := by
  rw [visitAll]
  cases visit roles path done name <;> rfl

mutual
/-- What `visit` computes is how a walk ends. -/
theorem walks_visit (roles : List Role) (path done : List String) (name : String) :
    Walks roles path done name ((visit roles path done name).map (path, ·)) := by
  by_cases hdone : name ∈ done
  · rw [visit_finished hdone]
    exact .finished _ _ _ hdone
  by_cases hpath : name ∈ path
  · rw [visit_closed hdone hpath]
    exact .closed _ _ _ hdone hpath
  cases hrole : findRole? roles name with
  | none =>
      rw [visit_undeclared hdone hpath hrole]
      exact .undeclared _ _ _ hdone hpath hrole
  | some role =>
      have hlt := remaining_append_lt hrole (by simpa using hpath)
      have hall := walks_all_visit roles (path ++ [name]) done role.generalization
      rw [visit_declared hdone hpath hrole]
      cases hinner : visitAll roles (path ++ [name]) done role.generalization with
      | ok inner =>
          rw [hinner] at hall
          have hwalk := Walks.declared _ _ _ _ _ _ hdone hpath hrole hall
          rwa [List.dropLast_concat] at hwalk
      | error cycle =>
          rw [hinner] at hall
          exact .failed _ _ _ _ _ hdone hpath hrole hall
termination_by (remaining roles path, 0)
decreasing_by
  exact Prod.Lex.left _ _ (by assumption)

/-- What `visitAll` computes is how walks from several names end. -/
theorem walks_all_visit (roles : List Role) (path done names : List String) :
    WalksAll roles path done names ((visitAll roles path done names).map (path, ·)) := by
  match names with
  | [] =>
      rw [visit_all_nil]
      exact .nil _ _
  | name :: names =>
      have hfirst := walks_visit roles path done name
      rw [visit_all_cons]
      cases hvisit : visit roles path done name with
      | ok first =>
          rw [hvisit] at hfirst
          exact .cons _ _ _ _ _ _ _ hfirst (walks_all_visit roles path first names)
      | error cycle =>
          rw [hvisit] at hfirst
          exact .stop _ _ _ _ _ hfirst
termination_by (remaining roles path, names.length + 1)
end

/-- A result that keeps its path is a success exactly with the same finished names. -/
theorem ok_eq_map_iff {result : Except (List String) (List String)} :
    .ok (path', done') = result.map (path, ·) ↔ path' = path ∧ result = .ok done' := by
  cases result <;> simp [Except.map, eq_comm]

/-- A result that keeps its path is an error exactly with the same cycle. -/
theorem error_eq_map_iff {result : Except (List String) (List String)} :
    .error cycle = result.map (path, ·) ↔ result = .error cycle := by
  cases result <;> simp [Except.map, eq_comm]

mutual
/-- A walk ends in no other way. -/
theorem Walks.eq_visit {roles : List Role} {path done : List String} {name : String}
    {outcome : Except (List String) (List String × List String)}
    (h : Walks roles path done name outcome) :
    outcome = (visit roles path done name).map (path, ·) := by
  match h with
  | .finished _ _ _ hdone =>
      rw [visit_finished hdone]
      rfl
  | .closed _ _ _ hnew hpath =>
      rw [visit_closed hnew hpath]
      rfl
  | .undeclared _ _ _ hnew hfresh hrole =>
      rw [visit_undeclared hnew hfresh hrole]
      rfl
  | .declared _ _ _ role path' done' hnew hfresh hrole hall =>
      obtain ⟨rfl, hinner⟩ := ok_eq_map_iff.1 hall.eq_visit_all
      rw [visit_declared hnew hfresh hrole, hinner, List.dropLast_concat]
      rfl
  | .failed _ _ _ role cycle hnew hfresh hrole hall =>
      rw [visit_declared hnew hfresh hrole, error_eq_map_iff.1 hall.eq_visit_all]
      rfl

/-- Walks from several names end in no other way. -/
theorem WalksAll.eq_visit_all {roles : List Role} {path done names : List String}
    {outcome : Except (List String) (List String × List String)}
    (h : WalksAll roles path done names outcome) :
    outcome = (visitAll roles path done names).map (path, ·) := by
  match h with
  | .nil _ _ =>
      rw [visit_all_nil]
      rfl
  | .cons _ _ name names path' done' _ hfirst hrest =>
      obtain ⟨rfl, hvisit⟩ := ok_eq_map_iff.1 hfirst.eq_visit
      rw [visit_all_cons, hvisit]
      exact hrest.eq_visit_all
  | .stop _ _ _ _ _ hfirst =>
      rw [visit_all_cons, error_eq_map_iff.1 hfirst.eq_visit]
      rfl
end

/-- A walk ends from every state, in one way only. Without an error it leaves the path as it was. -/
theorem walks_iff :
    Walks roles path done name outcome ↔ outcome = (visit roles path done name).map (path, ·) := by
  refine ⟨Walks.eq_visit, ?_⟩
  rintro rfl
  exact walks_visit roles path done name

/-! ### What a name reaches -/

/-- `OnCycle roles name` says `name` is an ancestor of itself. -/
def OnCycle (roles : List Role) (name : String) : Prop :=
  Relation.TransGen (fun child parent => IsParent roles parent child) name name

/-- `Reaches roles name n` says `n` is a declared role, and it is `name` or an ancestor of it. -/
structure Reaches (roles : List Role) (name n : String) : Prop where
  /-- The role is declared. -/
  declared : (findRole? roles n).isSome
  /-- It is reached along declared parents. -/
  steps : Relation.ReflTransGen (fun child parent => IsParent roles parent child) name n

/-- Only a declared role reaches anything. -/
theorem Reaches.start_declared (h : Reaches roles name n) : (findRole? roles name).isSome := by
  rcases h.steps.cases_head with rfl | ⟨parent, ⟨role, hrole, _⟩, _⟩
  · exact h.declared
  · rw [hrole]
    rfl

/-- A declared role reaches itself and what the names that it lists reach. -/
theorem reaches_iff (hrole : findRole? roles name = some role) :
    Reaches roles name n ↔ n = name ∨ ∃ parent ∈ role.generalization, Reaches roles parent n := by
  constructor
  · rintro ⟨hdeclared, hsteps⟩
    rcases hsteps.cases_head with rfl | ⟨parent, ⟨found, hfound, hlisted, _⟩, hrest⟩
    · exact Or.inl rfl
    · obtain rfl := Option.some.inj (hrole.symm.trans hfound)
      exact Or.inr ⟨parent, hlisted, hdeclared, hrest⟩
  · rintro (rfl | ⟨parent, hlisted, hreaches⟩)
    · exact ⟨by rw [hrole]; rfl, .refl⟩
    · have hstep : IsParent roles parent name := ⟨role, hrole, hlisted, hreaches.start_declared⟩
      exact ⟨hreaches.declared, .head hstep hreaches.steps⟩

/-- A role that is reached from a name that it lists is on a cycle. -/
theorem Reaches.on_cycle (h : Reaches roles parent name) (hrole : findRole? roles name = some role)
    (hlisted : parent ∈ role.generalization) : OnCycle roles name :=
  .head' ⟨role, hrole, hlisted, h.start_declared⟩ h.steps

/-- A declared role can join declared roles. -/
theorem declared_concat (hpath : ∀ n ∈ path, (findRole? roles n).isSome)
    (hname : (findRole? roles name).isSome) : ∀ n ∈ path ++ [name], (findRole? roles n).isSome :=
  List.forall_mem_append.2 ⟨hpath, List.forall_mem_singleton.2 hname⟩

/-- A declared role is an ancestor of all roles on a path that leads to it. -/
theorem LeadsTo.ancestor (h : LeadsTo roles path name) (hname : (findRole? roles name).isSome)
    (hn : n ∈ path) :
    Relation.TransGen (fun child parent => IsParent roles parent child) n name := by
  have hdeclared := declared_concat h.declared hname
  have hsteps : (path ++ [name]).IsChain
      (Relation.TransGen fun child parent => IsParent roles parent child) :=
    h.steps.imp_of_mem_imp fun child parent _ hparent hlists =>
      .single (is_parent_iff.2 ⟨hlists, hdeclared parent hparent⟩)
  exact (List.pairwise_append.1 hsteps.pairwise).2.2 n hn name (List.mem_singleton.2 rfl)

/-- A role on a path is on a cycle if the name that the path leads to reaches it. -/
theorem LeadsTo.on_cycle (h : LeadsTo roles path name) (hreaches : Reaches roles name n)
    (hn : n ∈ path) : OnCycle roles n :=
  (h.ancestor hreaches.start_declared hn).trans_left hreaches.steps

/-! ### The finished names -/

/-- `Finished roles done` says the names in `done` are declared and on no cycle, and the declared
parents of each are among them. -/
structure Finished (roles : List Role) (done : List String) : Prop where
  /-- The names are declared. -/
  declared : ∀ n ∈ done, (findRole? roles n).isSome
  /-- None of them is on a cycle. -/
  acyclic : ∀ n ∈ done, ¬ OnCycle roles n
  /-- Declared parents are finished too. -/
  closed : ∀ n ∈ done, ∀ parent, IsParent roles parent n → parent ∈ done

/-- At first nothing is finished. -/
theorem Finished.nil (roles : List Role) : Finished roles [] :=
  ⟨by simp, by simp, by simp⟩

/-- The ancestors of a finished name are finished. -/
theorem Finished.mem_of_steps (h : Finished roles done) (hname : name ∈ done)
    (hsteps : Relation.ReflTransGen (fun child parent => IsParent roles parent child) name n) :
    n ∈ done := by
  induction hsteps with
  | refl => exact hname
  | tail _ hstep ih => exact h.closed _ ih _ hstep

/-- A role can be finished after the declared names that it lists. -/
theorem Finished.cons (h : Finished roles done) (hrole : findRole? roles name = some role)
    (hparents : ∀ parent ∈ role.generalization, (findRole? roles parent).isSome → parent ∈ done) :
    Finished roles (name :: done) := by
  have hclosed : ∀ parent, IsParent roles parent name → parent ∈ done := by
    rintro parent ⟨found, hfound, hlisted, hdeclared⟩
    obtain rfl := Option.some.inj (hrole.symm.trans hfound)
    exact hparents parent hlisted hdeclared
  refine ⟨?_, ?_, ?_⟩
  · rintro n (_ | ⟨_, hn⟩)
    · rw [hrole]
      rfl
    · exact h.declared n hn
  · rintro n (_ | ⟨_, hn⟩) hcycle
    · -- a cycle through the new name would come back to it from a finished name
      obtain ⟨parent, hstep, hsteps⟩ := Relation.TransGen.head'_iff.1 hcycle
      exact h.acyclic name (h.mem_of_steps (hclosed parent hstep) hsteps) hcycle
    · exact h.acyclic n hn hcycle
  · rintro n (_ | ⟨_, hn⟩) parent hparent
    · exact List.mem_cons_of_mem _ (hclosed parent hparent)
    · exact List.mem_cons_of_mem _ (h.closed n hn parent hparent)

/-! ### What a walk ends with -/

/-- `Answers roles path done names outcome` says `outcome` is right for walks from `names`. Either
the path is as it was and the finished names have grown by what `names` reach, or one of `names`
reaches a role on the path or on a cycle. -/
inductive Answers (roles : List Role) (path done names : List String) :
    Except (List String) (List String × List String) → Prop where
  | ok (done' : List String) :
      Finished roles done' →
      (∀ n, n ∈ done' ↔ n ∈ done ∨ ∃ name ∈ names, Reaches roles name n) →
      Answers roles path done names (.ok (path, done'))
  | error (cycle : List String) (name n : String) :
      name ∈ names → Reaches roles name n → n ∈ path ∨ OnCycle roles n →
      Answers roles path done names (.error cycle)

mutual
/-- A walk along declared roles ends with a right answer. -/
theorem Walks.answers {roles : List Role} {path done : List String} {name : String}
    {outcome : Except (List String) (List String × List String)}
    (h : Walks roles path done name outcome) (hdone : Finished roles done)
    (hpath : ∀ n ∈ path, (findRole? roles n).isSome) : Answers roles path done [name] outcome := by
  match h with
  | .finished _ _ _ hmem =>
      refine .ok _ hdone fun n => ⟨Or.inl, ?_⟩
      rintro (hn | ⟨_, hname, hreaches⟩)
      · exact hn
      · exact hdone.mem_of_steps (List.mem_singleton.1 hname ▸ hmem) hreaches.steps
  | .closed _ _ _ _ hmem =>
      exact .error _ name name List.mem_cons_self ⟨hpath name hmem, .refl⟩ (Or.inl hmem)
  | .undeclared _ _ _ _ _ hrole =>
      refine .ok _ hdone fun n => ⟨Or.inl, ?_⟩
      rintro (hn | ⟨_, hname, hreaches⟩)
      · exact hn
      · have hdeclared := hreaches.start_declared
        rw [List.mem_singleton.1 hname, hrole] at hdeclared
        cases hdeclared
  | .declared _ _ _ role path' done' _ _ hrole hall =>
      have hlonger := declared_concat hpath (Option.isSome_iff_exists.2 ⟨role, hrole⟩)
      cases hall.answers hdone hlonger with
      | ok _ hfinished hgrows =>
          have hparents : ∀ parent ∈ role.generalization,
              (findRole? roles parent).isSome → parent ∈ done' := fun parent hlisted hdeclared =>
            (hgrows parent).2 (Or.inr ⟨parent, hlisted, hdeclared, .refl⟩)
          rw [List.dropLast_concat]
          refine .ok _ (hfinished.cons hrole hparents) fun n => ?_
          simp only [List.mem_cons, hgrows, List.not_mem_nil, or_false, exists_eq_left,
            reaches_iff hrole]
          exact or_left_comm
  | .failed _ _ _ role cycle _ _ hrole hall =>
      have hlonger := declared_concat hpath (Option.isSome_iff_exists.2 ⟨role, hrole⟩)
      cases hall.answers hdone hlonger with
      | error _ parent n hlisted hreaches hmeets =>
          have hname := (reaches_iff hrole).2 (Or.inr ⟨parent, hlisted, hreaches⟩)
          refine .error _ name n List.mem_cons_self hname ?_
          rcases hmeets with hn | hcycle
          · rcases List.mem_append.1 hn with hn | hn
            · exact Or.inl hn
            · obtain rfl := List.mem_singleton.1 hn
              exact Or.inr (hreaches.on_cycle hrole hlisted)
          · exact Or.inr hcycle

/-- Walks from several names along declared roles end with a right answer. -/
theorem WalksAll.answers {roles : List Role} {path done names : List String}
    {outcome : Except (List String) (List String × List String)}
    (h : WalksAll roles path done names outcome) (hdone : Finished roles done)
    (hpath : ∀ n ∈ path, (findRole? roles n).isSome) : Answers roles path done names outcome := by
  match h with
  | .nil _ _ => exact .ok _ hdone (by simp)
  | .cons _ _ name names path' done' _ hfirst hrest =>
      -- taken before the answer of the first walk tells what `path'` is
      have hrestAnswers := hrest.answers
      cases hfirst.answers hdone hpath with
      | ok _ hfinished hgrows =>
          cases hrestAnswers hfinished hpath with
          | ok later hlater hgrowsLater =>
              refine .ok _ hlater fun n => ?_
              simp only [hgrowsLater, hgrows, List.mem_cons, List.not_mem_nil, or_false,
                exists_eq_left, exists_eq_or_imp]
              exact or_assoc
          | error cycle other n hother hreaches hmeets =>
              exact .error _ other n (List.mem_cons_of_mem _ hother) hreaches hmeets
  | .stop _ _ name names _ hfirst =>
      cases hfirst.answers hdone hpath with
      | error _ _ n hname hreaches hmeets =>
          exact .error _ _ n (List.mem_singleton.1 hname ▸ List.mem_cons_self) hreaches hmeets
end

/-! ### From a state that a walk can be in -/

/-- `Ready roles path done name` says a walk can come to `name` along `path` with the names in
`done` finished. -/
structure Ready (roles : List Role) (path done : List String) (name : String) : Prop where
  /-- The finished names are declared, on no cycle, and closed under parents. -/
  finished : Finished roles done
  /-- The names on the path are declared and distinct, and each lists the next one. -/
  leads : LeadsTo roles path name
  /-- No name on the path is finished. -/
  fresh : ∀ n ∈ path, n ∉ done

/-- A walk from a ready state gives an answer for the name at which it starts. -/
theorem Ready.answers (h : Ready roles path done name) :
    Answers roles path done [name] ((visit roles path done name).map (path, ·)) :=
  (walks_visit roles path done name).answers h.finished h.leads.declared

/-- Without an error, what the start reaches is finished. -/
theorem Ready.finished_of_ok (h : Ready roles path done name)
    (hok : visit roles path done name = .ok done') :
    Finished roles done' ∧ ∀ n, n ∈ done' ↔ n ∈ done ∨ Reaches roles name n := by
  have hanswers := h.answers
  rw [hok] at hanswers
  cases hanswers with
  | ok _ hfinished hgrows =>
      refine ⟨hfinished, fun n => (hgrows n).trans ?_⟩
      simp only [List.mem_singleton, exists_eq_left]

/-- With an error, the start reaches a role on the path or on a cycle. -/
theorem Ready.meets_of_error (h : Ready roles path done name)
    (herror : visit roles path done name = .error cycle) :
    ∃ n, Reaches roles name n ∧ (n ∈ path ∨ OnCycle roles n) := by
  have hanswers := h.answers
  rw [herror] at hanswers
  cases hanswers with
  | error _ _ n hname hreaches hmeets =>
      exact ⟨n, List.mem_singleton.1 hname ▸ hreaches, hmeets⟩

/-- From a state that a walk can be in, the walk ends, in one way only: with what `visit` computes,
and with the path as it was if there is no error. There is an error exactly if the start reaches a
declared role, which may be the start itself, that is on the path or on a cycle. Without an error,
exactly the roles that the start reaches are finished besides those that were, and a walk can go on
to every name that the path leads to. -/
theorem walk_of_ready (h : Ready roles path done name) :
    (∀ outcome, Walks roles path done name outcome ↔
      outcome = (visit roles path done name).map (path, ·)) ∧
    ((∃ cycle, visit roles path done name = .error cycle) ↔
      ∃ n, Reaches roles name n ∧ (n ∈ path ∨ OnCycle roles n)) ∧
    ∀ done', visit roles path done name = .ok done' →
      (∀ n, n ∈ done' ↔ n ∈ done ∨ Reaches roles name n) ∧
      ∀ next, LeadsTo roles path next → Ready roles path done' next := by
  refine ⟨fun _ => walks_iff, ⟨?_, ?_⟩, ?_⟩
  · rintro ⟨cycle, herror⟩
    exact h.meets_of_error herror
  · rintro ⟨n, hreaches, hmeets⟩
    have hcycle : OnCycle roles n := hmeets.elim (h.leads.on_cycle hreaches) id
    cases hvisit : visit roles path done name with
    | error cycle => exact ⟨cycle, rfl⟩
    | ok done' =>
        obtain ⟨hfinished, hgrows⟩ := h.finished_of_ok hvisit
        exact absurd hcycle (hfinished.acyclic n ((hgrows n).2 (Or.inr hreaches)))
  · intro done' hvisit
    obtain ⟨hfinished, hgrows⟩ := h.finished_of_ok hvisit
    refine ⟨hgrows, fun next hnext => ⟨hfinished, hnext, fun n hn hmem => ?_⟩⟩
    -- a name on the path that is finished now would have been reached, and so be on a cycle
    rcases (hgrows n).1 hmem with hold | hreaches
    · exact h.fresh n hn hold
    · exact hfinished.acyclic n hmem (h.leads.on_cycle hreaches hn)

/-- A role `a` with two parents, of which the second specializes `a` again. -/
def forked : List Role :=
  [{ name := "a", generalization := ["b", "c"] }, { name := "b", generalization := ["ghost", "d"] },
    { name := "c", generalization := ["d", "a"] }, { name := "d" }]

/-- On the way from `a`, the walk from the first parent finishes it and what it specializes. The
walk from the second parent can start then, and comes back to `a`. -/
theorem walk_of_forked :
    Ready forked ["a"] [] "b" ∧ visit forked ["a"] [] "b" = .ok ["b", "d"] ∧
      Ready forked ["a"] ["b", "d"] "c" ∧
      visit forked ["a"] ["b", "d"] "c" = .error ["a", "c", "a"] ∧
      ∃ n, Reaches forked "c" n ∧ (n ∈ ["a"] ∨ OnCycle forked n) := by
  have hleads : ∀ parent ∈ ["b", "c"], LeadsTo forked ["a"] parent := fun parent hparent =>
    (LeadsTo.nil forked "a").push (by decide) rfl hparent
  have hfirst : Ready forked ["a"] [] "b" := ⟨.nil forked, hleads "b" (by decide), by simp⟩
  have hvisit : visit forked ["a"] [] "b" = .ok ["b", "d"] := by cbv
  have hsecond : Ready forked ["a"] ["b", "d"] "c" :=
    ((walk_of_ready hfirst).2.2 _ hvisit).2 "c" (hleads "c" (by decide))
  have hcycle : visit forked ["a"] ["b", "d"] "c" = .error ["a", "c", "a"] := by cbv
  exact ⟨hfirst, hvisit, hsecond, hcycle, (walk_of_ready hsecond).2.1.1 ⟨_, hcycle⟩⟩

end MarkupSemantics.Aria.Hierarchy
