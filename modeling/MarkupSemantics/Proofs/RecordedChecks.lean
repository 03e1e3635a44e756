import Mathlib.Data.List.Forall2
import MarkupSemantics.Rules.Validation

/-!
# What a checker is asked

Checks of attributes may share one checker, and whatever comes of a check, the checker is asked once
about it. `run_eq` says so for every checker, `run_recording` what one check adds to a record of the
calls, and `record_after_eq` what a sequence of checks adds. The main statement is
`record_of_checks`: the record is the sequence of the checks, call for call.
-/

namespace MarkupSemantics

/-- Where the definitions come from that an attribute is checked with. -/
inductive DefinitionSource where
  /-- They are given with the check. -/
  | given (definitions : List AttributeDef)
  /-- They are the ones that a repository gives to the element. -/
  | repository (r : Repository)

/-- A check of an attribute, with all that it depends on apart from the checker. -/
structure AttributeCheck where
  /-- The type of the element. -/
  {ε : Type}
  /-- What is known about elements of this type. -/
  [markup : MarkupElement ε]
  /-- The element. -/
  element : ε
  /-- The attribute as it is written on the element. -/
  written : WrittenAttribute
  /-- How messages are made. -/
  translate : Translator
  /-- Where the definitions come from. -/
  source : DefinitionSource

attribute [instance] AttributeCheck.markup

/-- `IsFirstNamed definitions name found` says `found` is the first of `definitions` that is called
`name`, or is missing because there is none. -/
def IsFirstNamed (definitions : List AttributeDef) (name : String) : Option AttributeDef → Prop
  | none => ∀ d ∈ definitions, d.name ≠ name
  | some found => found.name = name ∧
      ∃ before after, definitions = before ++ found :: after ∧ ∀ d ∈ before, d.name ≠ name

/-- A search by name finds the first definition of the name. -/
theorem is_first_named_find? (definitions : List AttributeDef) (name : String) :
    IsFirstNamed definitions name (definitions.find? (·.name == name)) := by
  cases hfind : definitions.find? (·.name == name) with
  | none => simpa [IsFirstNamed] using hfind
  | some found =>
      obtain ⟨hname, before, after, hsplit, hbefore⟩ := List.find?_eq_some_iff_append.1 hfind
      exact ⟨by simpa using hname, before, after, hsplit, by simpa using hbefore⟩

namespace AttributeCheck

/-- `c.definitions` lists the definitions that `c` uses. -/
def definitions (c : AttributeCheck) : List AttributeDef :=
  match c.source with
  | .given definitions => definitions
  | .repository r => (r.attributes? (MarkupElement.name c.element)).getD []

/-- `c.call` is what `c` asks its checker. -/
def call (c : AttributeCheck) : CheckerCall :=
  ⟨c.written.name, c.written.value, false, c.definitions.find? (·.name == c.written.name)⟩

/-- `c.Records call` says `call` is about the attribute of `c` as it is written, and about the first
definition for it. -/
structure Records (c : AttributeCheck) (call : CheckerCall) : Prop where
  /-- The name is the one that is written. -/
  name : call.name = c.written.name
  /-- So is the value. -/
  value : call.value = c.written.value
  /-- The attribute is not said to be added later, even if the element has a spread. -/
  isSpread : call.isSpread = false
  /-- The definition is the first one with the name. -/
  definition : IsFirstNamed c.definitions c.written.name call.definition

/-- The call that a check makes is the one that is recorded for it. -/
theorem records_call (c : AttributeCheck) : c.Records c.call :=
  ⟨rfl, rfl, rfl, is_first_named_find? _ _⟩

section Run

variable {m : Type → Type} [Monad m]

/-- `c.run checker` makes the check `c` with `checker`. -/
def run (c : AttributeCheck) (checker : Checker m) : m (Option AttributeProblem) :=
  match c.source with
  | .given definitions => c.written.check checker c.translate c.element definitions
  | .repository r => r.checkAttribute checker c.translate c.written c.element

/-- `runAll checks checker` makes `checks` one after another with the same `checker`. -/
def runAll (checks : List AttributeCheck) (checker : Checker m) :
    m (List (Option AttributeProblem)) :=
  checks.mapM (·.run checker)

/-- A check asks its checker once. All else that it does is to make its own answer from the one of
the checker. -/
theorem run_eq [LawfulMonad m] (c : AttributeCheck) (checker : Checker m) :
    c.run checker = (fun problem => c.written.reported (problem.or
      (c.written.conditionProblem? c.translate c.element c.call.definition))) <$>
        checker c.call := by
  obtain ⟨_, _, _, source⟩ := c
  cases source <;> exact bind_pure_comp _ _

end Run

/-- `recordAfter before checks` is the record of the calls after `checks`, if it is `before` when
they start. -/
def recordAfter (before : List CheckerCall) (checks : List AttributeCheck) : List CheckerCall :=
  ((runAll checks Checker.recording).run before).2

/-- A check adds its call at the end of the record. -/
theorem run_recording (c : AttributeCheck) (before : List CheckerCall) :
    ((c.run Checker.recording).run before).2 = before ++ [c.call] := by
  rw [run_eq]
  rfl

/-- The calls after the first check go on from the record with its call. -/
theorem record_after_cons (before : List CheckerCall) (c : AttributeCheck)
    (checks : List AttributeCheck) :
    recordAfter before (c :: checks) = recordAfter (before ++ [c.call]) checks := by
  rw [← run_recording c before, recordAfter, runAll, List.mapM_cons]
  rfl

/-- A sequence of checks adds its calls at the end of the record, in their order. -/
theorem record_after_eq (before : List CheckerCall) (checks : List AttributeCheck) :
    recordAfter before checks = before ++ checks.map call := by
  induction checks generalizing before with
  | nil => exact (List.append_nil before).symm
  | cons c checks ih =>
      rw [record_after_cons, ih, List.map_cons, List.append_assoc]
      rfl

/-- After a sequence of checks, the record has as many calls as there were checks, and each call in
its place is about the attribute of the check in this place, as it is written, and about the first
definition for it. Whatever is checked afterwards goes on from this record and only adds to it. -/
theorem record_of_checks (checks more : List AttributeCheck) :
    (recordAfter [] checks).length = checks.length ∧
    List.Forall₂ Records checks (recordAfter [] checks) ∧
    recordAfter [] (checks ++ more) = recordAfter (recordAfter [] checks) more ∧
    recordAfter [] checks <+: recordAfter [] (checks ++ more) := by
  simp only [record_after_eq, List.nil_append, List.length_map, List.map_append]
  refine ⟨trivial, ?_, trivial, List.prefix_append _ _⟩
  exact List.forall₂_map_right_iff.2 (List.forall₂_same.2 fun c _ => records_call c)

end AttributeCheck

end MarkupSemantics
