import MarkupSemantics.Repository

/-!
# The attributes of an element

The attributes that an element may have, put together from the attributes that all HTML elements
share, the entries of the element, and the attributes that are added to every element. A group adds
its attributes as they are. An attribute of the element refines the first attribute so far with its
name, or is added at the end.
-/

namespace MarkupSemantics

namespace AttributeDef

/-- `refineFirst later attributes` refines the first of `attributes` that has the name of `later`,
or adds `later` at the end. -/
def refineFirst (later : AttributeDef) : List AttributeDef → List AttributeDef
  | [] => [later]
  | a :: attributes =>
    if a.name = later.name then a.refine later :: attributes else a :: refineFirst later attributes

end AttributeDef

namespace Repository

/-- `r.groupAttributes name` lists the attributes of the group `name`, none if there is no such
group. -/
def groupAttributes (r : Repository) (name : String) : List AttributeDef :=
  (r.group? name).getD []

/-- `r.addEntry attributes entry` adds what `entry` stands for to the `attributes` so far. -/
def addEntry (r : Repository) (attributes : List AttributeDef) :
    AttributeEntry → List AttributeDef
  | .group name => attributes ++ r.groupAttributes name
  | .single definition => definition.refineFirst attributes

/-- `r.sharedAttributes e` lists the shared attributes with which the list of `e` starts: those of
HTML, if `e` refers to them and its name has no qualifier. -/
def sharedAttributes (r : Repository) (e : ElementDef) : List AttributeDef :=
  if !hasQualifier e.name && e.refersToGlobals then
    r.groupAttributes AttributeEntry.htmlGlobalGroup
  else []

/-- `r.attributesOf e` lists the attributes of the element `e`. -/
def attributesOf (r : Repository) (e : ElementDef) : List AttributeDef :=
  e.attributes.foldl r.addEntry (r.sharedAttributes e) ++
    r.groupAttributes AttributeEntry.extensionGroup

/-- `r.attributes? name` lists the attributes of the element called `name`. -/
def attributes? (r : Repository) (name : String) : Option (List AttributeDef) :=
  (r.element? name).map r.attributesOf

end Repository

end MarkupSemantics
