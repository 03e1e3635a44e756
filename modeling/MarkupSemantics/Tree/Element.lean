import MarkupSemantics.MarkupElement
import MarkupSemantics.Tree.Selector

/-!
# Elements in a tree

A node together with the nodes around it. Trees are values: placing a node inside another one takes
a copy of the surroundings. Fragments are passed over on the way up and match no selector.
-/

namespace MarkupSemantics.Tree

/-- A node at its place in a tree. -/
structure Element where
  /-- The node. -/
  node : Node
  /-- The nodes around it, the nearest first. -/
  around : List Node := []
  deriving DecidableEq, Repr

namespace Element

/-- `named name` is an element on its own. -/
def named (name : String) : Element :=
  { node := { name := name } }

/-- A fragment on its own. -/
def fragment : Element :=
  { node := Node.fragment }

/-- `e.addAttribute name value` is `e` with one more attribute. -/
def addAttribute (e : Element) (name value : String) : Element :=
  { e with node := e.node.addAttribute name value }

/-- `e.addSpread` is `e` with attributes that may be added later. -/
def addSpread (e : Element) : Element :=
  { e with node := e.node.addSpread }

/-- `e.within parent` is `e` placed inside `parent`. -/
def within (e parent : Element) : Element :=
  { e with around := parent.node :: parent.around }

/-- `elementsOf around` lists the elements among the nodes `around`, each at its place. -/
def elementsOf : List Node → List Element
  | [] => []
  | node :: around =>
    if node.isElement then ⟨node, around⟩ :: elementsOf around else elementsOf around

/-- `e.satisfies selector` says `e` is an element and matches `selector`. -/
def satisfies (e : Element) (selector : String) : Bool :=
  e.node.isElement && Selector.accepts selector e.node

instance : MarkupElement Element where
  name e := e.node.name
  satisfies := satisfies
  ancestors e := elementsOf e.around
  attribute? e := e.node.attribute?
  hasSpread e := e.node.spread

end Element

end MarkupSemantics.Tree
