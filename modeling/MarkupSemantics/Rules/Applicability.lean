import MarkupSemantics.Condition
import MarkupSemantics.MarkupElement

/-!
# Where a condition holds

A condition holds for an element that matches one of its own selectors or lies inside an element
that matches the other one. Alternatives are matched as one selector list, and an empty selector
matches nothing.
-/

namespace MarkupSemantics

variable {ε : Type} [MarkupElement ε]

namespace Condition

/-- `c.ownHolds e` says `e` matches one of the selectors for the element itself. -/
def ownHolds (c : Condition) (e : ε) : Bool :=
  c.own.any fun alternatives =>
    alternatives.joined != "" && MarkupElement.satisfies e alternatives.joined

/-- `c.ancestorHolds e` says some element around `e` matches the selector for ancestors. -/
def ancestorHolds (c : Condition) (e : ε) : Bool :=
  c.ancestor.any fun selector => selector != "" && MarkupElement.liesIn e selector

/-- `c.holds e` says `e` satisfies one part of the condition `c`. -/
def holds (c : Condition) (e : ε) : Bool :=
  c.ownHolds e || c.ancestorHolds e

/-- `isMet condition e` says `e` satisfies `condition`, which may be missing. -/
def isMet (condition : Option Condition) (e : ε) : Bool :=
  condition.all (·.holds e)

end Condition

/-- `Case.select cases e` is the value of the first case that applies to `e`. -/
def Case.select {α : Type} (cases : List (Case α)) (e : ε) : Option α :=
  (cases.find? fun c => MarkupElement.satisfies e c.condition).map (·.value)

end MarkupSemantics
