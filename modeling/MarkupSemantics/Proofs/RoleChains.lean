import Mathlib.Data.List.Nodup
import Mathlib.Data.Set.Card
import MarkupSemantics.Aria.Vocabulary

/-!
# Chains of generalizations

A chain from a role says, step after step, which entry of the list of specialized roles to go to.
It is a list of positions, so an entry that is listed twice makes two chains. `Enumerates` ties a
list of roles to the chains that lead to them, and `enumerates_declared` builds the chains of a role
from the chains of its parents.
-/

namespace MarkupSemantics

open Aria (Role Vocabulary)

namespace Ancestry

/-- `parentsOf v role` lists the declared roles that `role` specializes, in their order. -/
def parentsOf (v : Vocabulary) (role : Role) : List Role :=
  role.generalization.filterMap v.role?

/-- `roleAlong? v name positions` is the role that is reached from the role `name` by going to the
entry at each of `positions` in turn, in the list of roles that the current role specializes. All
roles on the way must be declared. -/
def roleAlong? (v : Vocabulary) (name : String) : List Nat → Option Role
  | [] => v.role? name
  | position :: positions => do
      let role ← v.role? name
      let parent ← role.generalization[position]?
      roleAlong? v parent positions

/-- `chains v name ancestor` is the set of the chains of one or more positions that lead from the
role `name` to `ancestor`. -/
def chains (v : Vocabulary) (name : String) (ancestor : Role) : Set (List Nat) :=
  {positions | positions ≠ [] ∧ roleAlong? v name positions = some ancestor}

variable {v : Vocabulary} {name : String} {role parent ancestor : Role} {position : Nat}
  {positions : List Nat}

/-- `stepsOf v role` lists the declared roles that `role` specializes, each with its position. -/
def stepsOf (v : Vocabulary) (role : Role) : List (Nat × Role) :=
  role.generalization.zipIdx.filterMap fun (name, position) => (v.role? name).map (position, ·)

/-- A step leads to a declared role that is listed at its position. -/
theorem mem_steps_of_iff :
    (position, parent) ∈ stepsOf v role ↔
      ∃ name, role.generalization[position]? = some name ∧ v.role? name = some parent := by
  simp [stepsOf, List.mem_zipIdx_iff_getElem?]

/-- Without their positions, the steps are the parents. -/
theorem map_snd_steps_of : (stepsOf v role).map (·.2) = parentsOf v role := by
  conv_rhs => rw [parentsOf, ← List.zipIdx_map_fst 0 role.generalization, List.filterMap_map]
  rw [stepsOf, List.map_filterMap]
  congr 1
  funext entry
  simp [Function.comp_def]

/-- No two steps have the same position. -/
theorem steps_of_distinct : (stepsOf v role).Pairwise (·.1 ≠ ·.1) := by
  have hpositions : (role.generalization.zipIdx.map (·.2)).Nodup := by simp [List.nodup_range']
  refine List.pairwise_filterMap.2 ((List.pairwise_map.1 hpositions).imp ?_)
  intro first second hne step hstep other hother
  obtain ⟨_, _, rfl⟩ := Option.map_eq_some_iff.1 hstep
  obtain ⟨_, _, rfl⟩ := Option.map_eq_some_iff.1 hother
  exact hne

/-- A step leads to its parent. -/
theorem step_end {step : Nat × Role} (h : step ∈ stepsOf v role) :
    roleAlong? v step.2.name [] = some step.2 := by
  obtain ⟨listed, _, hparent⟩ := mem_steps_of_iff.1 h
  rw [Aria.name_of_find_role? hparent]
  exact hparent

/-- A chain starts from a declared role. -/
theorem is_some_of_role_along? (h : (roleAlong? v name positions).isSome) :
    (v.role? name).isSome := by
  cases positions with
  | nil => exact h
  | cons position positions =>
      cases hrole : v.role? name with
      | none => simp [roleAlong?, hrole] at h
      | some role => rfl

/-- A chain that starts with a step goes on from the parent at its position. -/
theorem role_along?_cons (hrole : v.role? name = some role)
    (hstep : (position, parent) ∈ stepsOf v role) :
    roleAlong? v name (position :: positions) = roleAlong? v parent.name positions := by
  obtain ⟨listed, hlisted, hparent⟩ := mem_steps_of_iff.1 hstep
  simp [roleAlong?, hrole, hlisted, Aria.name_of_find_role? hparent]

/-- A chain that leads to a role starts with a step. -/
theorem exists_step_of_role_along? (hrole : v.role? name = some role)
    (h : (roleAlong? v name (position :: positions)).isSome) :
    ∃ parent, (position, parent) ∈ stepsOf v role := by
  cases hlisted : role.generalization[position]? with
  | none => simp [roleAlong?, hrole, hlisted] at h
  | some listed =>
      have hrest : (roleAlong? v listed positions).isSome := by
        simpa [roleAlong?, hrole, hlisted] using h
      obtain ⟨parent, hparent⟩ := Option.isSome_iff_exists.1 (is_some_of_role_along? hrest)
      exact ⟨parent, mem_steps_of_iff.2 ⟨listed, hlisted, hparent⟩⟩

/-- `Enumerates v name all closure` says `all` lists the chains of one or more positions that lead
from the role `name` to some role, each of them once, and `closure` lists the roles that they lead
to. -/
structure Enumerates (v : Vocabulary) (name : String) (all : List (List Nat))
    (closure : List Role) : Prop where
  /-- No chain is listed twice. -/
  distinct : all.Nodup
  /-- The listed chains are those that lead to some role. -/
  mem_iff : ∀ positions,
    positions ∈ all ↔ positions ≠ [] ∧ (roleAlong? v name positions).isSome
  /-- Each chain leads to the role in its place. -/
  ends : all.map (roleAlong? v name) = closure.map some

/-- A role occurs among the ends of the chains once for each chain that leads to it. -/
theorem Enumerates.encard_chains {all : List (List Nat)} {closure : List Role}
    (h : Enumerates v name all closure) :
    (chains v name ancestor).encard = closure.count ancestor := by
  have hchains : chains v name ancestor =
      (all.filter (roleAlong? v name · == some ancestor)).toFinset := by
    ext positions
    rw [List.coe_toFinset]
    simp only [chains, Set.mem_ofPred_eq, List.mem_filter, h.mem_iff, beq_iff_eq]
    constructor
    · rintro ⟨hne, hend⟩
      exact ⟨⟨hne, by rw [hend]; rfl⟩, hend⟩
    · rintro ⟨⟨hne, _⟩, hend⟩
      exact ⟨hne, hend⟩
  have hcount : closure.count ancestor =
      (all.filter (roleAlong? v name · == some ancestor)).length := by
    rw [← List.count_map_of_injective closure some (Option.some_injective _), ← h.ends,
      List.count_eq_countP, List.countP_map, List.countP_eq_length_filter]
    rfl
  rw [hchains, Set.encard_coe_eq_coe_finsetCard, List.toFinset_card_of_nodup (h.distinct.filter _),
    hcount]

/-- No chain starts from a name that is not declared. -/
theorem enumerates_undeclared (h : v.role? name = none) : Enumerates v name [] [] := by
  refine ⟨List.nodup_nil, fun positions => ?_, rfl⟩
  constructor
  · intro hmem
    cases hmem
  · rintro ⟨_, hsome⟩
    have hdeclared := is_some_of_role_along? hsome
    rw [h] at hdeclared
    cases hdeclared

/-! ### One step further -/

/-- `chainsFrom steps sub` lists the chains that start with one of `steps`: each step alone, and
then each step followed by the chains that `sub` lists for its role. -/
def chainsFrom (steps : List (Nat × Role)) (sub : Role → List (List Nat)) : List (List Nat) :=
  steps.map (fun step => [step.1]) ++
    steps.flatMap fun step => (sub step.2).map (step.1 :: ·)

section ChainsFrom

variable {steps : List (Nat × Role)} {sub : Role → List (List Nat)}

/-- A chain is a step, or a step followed by a chain from its role. -/
theorem mem_chains_from_iff :
    positions ∈ chainsFrom steps sub ↔
      ∃ step ∈ steps, ∃ rest, (rest = [] ∨ rest ∈ sub step.2) ∧ positions = step.1 :: rest := by
  rw [chainsFrom, List.mem_append, List.mem_map, List.mem_flatMap]
  constructor
  · intro h
    rcases h with ⟨step, hstep, rfl⟩ | ⟨step, hstep, hmem⟩
    · exact ⟨step, hstep, [], Or.inl rfl, rfl⟩
    · obtain ⟨rest, hrest, rfl⟩ := List.mem_map.1 hmem
      exact ⟨step, hstep, rest, Or.inr hrest, rfl⟩
  · intro h
    obtain ⟨step, hstep, rest, hrest | hrest, rfl⟩ := h
    · exact Or.inl ⟨step, hstep, by rw [hrest]⟩
    · exact Or.inr ⟨step, hstep, List.mem_map_of_mem hrest⟩

/-- No chain is listed twice if no two steps have the same position and no chain after a step is
listed twice or empty. -/
theorem nodup_chains_from (hsteps : steps.Pairwise (·.1 ≠ ·.1))
    (hsub : ∀ step ∈ steps, (sub step.2).Nodup ∧ [] ∉ sub step.2) :
    (chainsFrom steps sub).Nodup := by
  have halone : (steps.map fun step => [step.1]).Nodup :=
    List.pairwise_map.2 (hsteps.imp fun hne heq => hne (List.cons.inj heq).1)
  have hlonger : (steps.flatMap fun step => (sub step.2).map (step.1 :: ·)).Nodup := by
    refine List.nodup_flatMap.2 ⟨fun step hstep => ?_, hsteps.imp ?_⟩
    · exact (hsub step hstep).1.map List.cons_injective
    · intro first second hne positions hfirst hsecond
      obtain ⟨_, _, rfl⟩ := List.mem_map.1 hfirst
      obtain ⟨_, _, heq⟩ := List.mem_map.1 hsecond
      exact hne (List.cons.inj heq).1.symm
  refine List.nodup_append.2 ⟨halone, hlonger, ?_⟩
  -- a step alone ends where a longer chain goes on, as no chain after a step is empty
  intro positions hfirst other hother heq
  obtain ⟨step, _, rfl⟩ := List.mem_map.1 hfirst
  obtain ⟨step', hstep', hmem⟩ := List.mem_flatMap.1 hother
  obtain ⟨rest, hrest, rfl⟩ := List.mem_map.1 hmem
  obtain rfl := (List.cons.inj heq).2
  exact (hsub step' hstep').2 hrest

/-- The ends of the chains are the roles of the steps and then the ends of what follows each. -/
theorem map_chains_from {stop : List Nat → Option Role} {closures : Role → List Role}
    (halone : ∀ step ∈ steps, stop [step.1] = some step.2)
    (hsub : ∀ step ∈ steps,
      (sub step.2).map (fun rest => stop (step.1 :: rest)) = (closures step.2).map some) :
    (chainsFrom steps sub).map stop =
      (steps.map (·.2) ++ (steps.map (·.2)).flatMap closures).map some := by
  have hsteps : (steps.map fun step => [step.1]).map stop = (steps.map (·.2)).map some := by
    rw [List.map_map, List.map_map]
    exact List.map_congr_left halone
  have hrest : (steps.flatMap fun step => (sub step.2).map (step.1 :: ·)).map stop =
      ((steps.map (·.2)).flatMap closures).map some := by
    rw [List.map_flatMap, List.flatMap_map, List.map_flatMap]
    refine List.flatMap_congr fun step hstep => ?_
    rw [← hsub step hstep, List.map_map]
    rfl
  rw [chainsFrom, List.map_append, hsteps, hrest, List.map_append]

end ChainsFrom

/-- The chains from a role are its steps, and then for each step the chains that go on from the
parent. -/
theorem enumerates_declared {sub : Role → List (List Nat)} {closures : Role → List Role}
    (hrole : v.role? name = some role)
    (h : ∀ parent ∈ parentsOf v role, Enumerates v parent.name (sub parent) (closures parent)) :
    Enumerates v name (chainsFrom (stepsOf v role) sub)
      (parentsOf v role ++ (parentsOf v role).flatMap closures) := by
  have hsub : ∀ step ∈ stepsOf v role,
      Enumerates v step.2.name (sub step.2) (closures step.2) := by
    intro step hstep
    exact h step.2 (map_snd_steps_of ▸ List.mem_map_of_mem hstep)
  refine ⟨?_, ?_, ?_⟩
  · refine nodup_chains_from steps_of_distinct fun step hstep => ⟨(hsub step hstep).distinct, ?_⟩
    intro hnil
    exact (((hsub step hstep).mem_iff []).1 hnil).1 rfl
  · intro positions
    rw [mem_chains_from_iff]
    constructor
    · intro hmem
      obtain ⟨step, hstep, rest, hrest, rfl⟩ := hmem
      refine ⟨List.cons_ne_nil _ _, ?_⟩
      rw [role_along?_cons hrole hstep]
      rcases hrest with rfl | hrest
      · rw [step_end hstep]
        rfl
      · exact (((hsub step hstep).mem_iff rest).1 hrest).2
    · intro hmem
      obtain ⟨hne, hsome⟩ := hmem
      obtain ⟨position, rest, rfl⟩ := List.exists_cons_of_ne_nil hne
      obtain ⟨parent, hstep⟩ := exists_step_of_role_along? hrole hsome
      rw [role_along?_cons hrole hstep] at hsome
      refine ⟨(position, parent), hstep, rest, ?_, rfl⟩
      by_cases hrest : rest = []
      · exact Or.inl hrest
      · exact Or.inr (((hsub _ hstep).mem_iff rest).2 ⟨hrest, hsome⟩)
  · rw [← map_snd_steps_of]
    refine map_chains_from (fun step hstep => ?_) fun step hstep => ?_
    · exact (role_along?_cons hrole hstep).trans (step_end hstep)
    · rw [← (hsub step hstep).ends]
      exact List.map_congr_left fun rest _ => role_along?_cons hrole hstep

end Ancestry
end MarkupSemantics
