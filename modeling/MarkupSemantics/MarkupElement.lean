/-!
# Elements of markup

What the rules need to know about an element of a document that is being checked. How selectors are
matched is up to the instance; `Tree.Element` is one with a small selector language.
-/

namespace MarkupSemantics

/-- A type of elements. -/
class MarkupElement (ε : Type) where
  /-- The qualified name of the element. -/
  name : ε → String
  /-- Whether the element matches a selector. -/
  satisfies : ε → String → Bool
  /-- The elements around the element, the nearest first. -/
  ancestors : ε → List ε
  /-- The value of an attribute. -/
  attribute? : ε → String → Option String
  /-- Whether attributes that are not written may be added while the document is in use. -/
  hasSpread : ε → Bool

namespace MarkupElement

variable {ε : Type} [MarkupElement ε]

/-- `liesIn e selector` says some element around `e` matches `selector`. -/
def liesIn (e : ε) (selector : String) : Bool :=
  (ancestors e).any (satisfies · selector)

/-- `parent? e` is the nearest element around `e`. -/
def parent? (e : ε) : Option ε :=
  (ancestors e).head?

end MarkupElement

end MarkupSemantics
