import MarkupSemantics.Rules.AttributeList
import MarkupSemantics.Rules.Applicability
import MarkupSemantics.Translation

/-!
# Checking an attribute

An attribute of an element is checked in two steps: a checker looks at its value, and if it finds
nothing, the condition of the attribute must hold. A checker may have effects; it is called exactly
once for every attribute that is checked.
-/

namespace MarkupSemantics

/-- In what way an attribute is wrong. -/
inductive ProblemKind where
  /-- The element does not have the attribute. -/
  | nonExistent
  /-- The attribute does not take the value. -/
  | invalidValue
  deriving DecidableEq, Repr

/-- What is wrong with an attribute. -/
structure AttributeProblem where
  /-- In what way it is wrong. -/
  kind : ProblemKind
  /-- The text for the author. -/
  message : String
  deriving DecidableEq, Repr

/-- A call of a checker. -/
structure CheckerCall where
  /-- The name of the attribute. -/
  name : String
  /-- Its value. -/
  value : String
  /-- Whether it is added while the document is in use. -/
  isSpread : Bool
  /-- Its definition. -/
  definition : Option AttributeDef
  deriving DecidableEq, Repr

/-- A checker of values, with effects in `m`. -/
abbrev Checker (m : Type → Type) := CheckerCall → m (Option AttributeProblem)

namespace Checker

/-- `always problem` gives the same answer to every call. -/
def always (problem : Option AttributeProblem) : Checker Id :=
  fun _ => problem

/-- A checker that accepts every value and keeps a record of its calls, the oldest first. -/
def recording : Checker (StateM (List CheckerCall)) :=
  fun call calls => (none, calls ++ [call])

end Checker

/-- `disallowedMessage translate name` is the text about the attribute `name` whose condition does
not hold. -/
def disallowedMessage (translate : Translator) (name : String) : String :=
  let subject := translate "the \"\x7b0\x7d\" \x7b1\x7d" [name, "attribute"]
  translate "\x7b0\x7d is \x7b1\x7d" [subject, "disallowed"]

variable {m : Type → Type} [Monad m] {ε : Type} [MarkupElement ε]

/-- An attribute as it is written on an element. -/
structure WrittenAttribute where
  /-- The name. -/
  name : String
  /-- The value. -/
  value : String
  /-- The value is computed while the document is in use. -/
  isDynamic : Bool := false
  deriving DecidableEq, Repr

namespace WrittenAttribute

/-- `a.conditionProblem? translate e definition` is the problem of an attribute whose condition does
not hold for `e`. An element with a spread may be given any attribute. -/
def conditionProblem? (a : WrittenAttribute) (translate : Translator) (e : ε)
    (definition : Option AttributeDef) : Option AttributeProblem :=
  if MarkupElement.hasSpread e || Condition.isMet (definition.bind (·.condition)) e then none
  else some ⟨.nonExistent, disallowedMessage translate a.name⟩

/-- `a.reported problem` drops a problem with a value that is not known yet. -/
def reported (a : WrittenAttribute) (problem : Option AttributeProblem) : Option AttributeProblem :=
  problem.filter fun problem => !(a.isDynamic && problem.kind == .invalidValue)

/-- `a.check checker translate e definitions` checks `a` on `e`, which may have the attributes
`definitions`. -/
def check (a : WrittenAttribute) (checker : Checker m) (translate : Translator) (e : ε)
    (definitions : List AttributeDef) : m (Option AttributeProblem) := do
  let definition := definitions.find? (·.name == a.name)
  let problem ← checker ⟨a.name, a.value, false, definition⟩
  return a.reported (problem.or (a.conditionProblem? translate e definition))

end WrittenAttribute

/-- `r.checkAttribute checker translate a e` checks `a` on `e` with the attributes that `r` gives to
`e`. -/
def Repository.checkAttribute (r : Repository) (checker : Checker m) (translate : Translator)
    (a : WrittenAttribute) (e : ε) : m (Option AttributeProblem) :=
  a.check checker translate e ((r.attributes? (MarkupElement.name e)).getD [])

end MarkupSemantics
