import MarkupSemantics.Text.Casing

/-!
# Nodes

A node of a document tree: an element, or a fragment that only groups what it contains. Attributes
keep the order in which they are added, and a look-up compares their names up to the case of ASCII
letters and takes the first.
-/

namespace MarkupSemantics.Tree

/-- A node without the tree around it. -/
structure Node where
  /-- The name of the node. -/
  name : String
  /-- The attributes with their values. -/
  attributes : List (String × String) := []
  /-- Whether attributes that are not written may be added later. -/
  spread : Bool := false
  /-- Whether the node is an element. -/
  isElement : Bool := true
  deriving DecidableEq, Repr

namespace Node

/-- A fragment. -/
def fragment : Node where
  name := "#document-fragment"
  isElement := false

/-- `n.addAttribute name value` is `n` with one more attribute. -/
def addAttribute (n : Node) (name value : String) : Node :=
  { n with attributes := n.attributes ++ [(name, value)] }

/-- `n.addSpread` is `n` with attributes that may be added later. -/
def addSpread (n : Node) : Node :=
  { n with spread := true }

/-- `n.attribute? name` is the value of the first attribute called `name`. -/
def attribute? (n : Node) (name : String) : Option String :=
  (n.attributes.find? fun (written, _) => Text.equalAscii written name).map (·.2)

end Node

end MarkupSemantics.Tree
