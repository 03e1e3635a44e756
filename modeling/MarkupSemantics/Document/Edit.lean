import MarkupSemantics.Document

/-!
# Edits of a document

Small changes to the parts of a document. Each gives a new document; removing what is not there
changes nothing.
-/

namespace MarkupSemantics

namespace Aria

/-- `v.addRole role graphics` adds a role at the end of the core roles, or of the graphics
module. -/
def Vocabulary.addRole (v : Vocabulary) (role : Role) (graphics : Bool) : Vocabulary :=
  if graphics then { v with graphicsRoles := v.graphicsRoles ++ [role] }
  else { v with roles := v.roles ++ [role] }

/-- `v.removeRole name` removes the roles called `name` from both lists. -/
def Vocabulary.removeRole (v : Vocabulary) (name : String) : Vocabulary :=
  { v with
    roles := v.roles.filter (·.name != name)
    graphicsRoles := v.graphicsRoles.filter (·.name != name) }

/-- `v.addProperty property` adds a property at the end. -/
def Vocabulary.addProperty (v : Vocabulary) (property : Property) : Vocabulary :=
  { v with properties := v.properties ++ [property] }

end Aria

namespace Document

/-- `d.mapAria version change` changes the vocabulary of `version`. -/
def mapAria (d : Document) (version : Aria.Version) (change : Aria.Vocabulary → Aria.Vocabulary) :
    Document :=
  { d with
    definitions := { d.definitions with
      aria := d.definitions.aria.set version (change (d.aria version)) } }

/-- `d.mapGroups change` changes the groups of attributes. -/
def mapGroups (d : Document)
    (change : StringMap (List AttributeDef) → StringMap (List AttributeDef)) : Document :=
  { d with
    definitions := { d.definitions with
      attributeGroups := change d.definitions.attributeGroups } }

/-- `d.setGroup name attributes` gives `attributes` to the group `name`. -/
def setGroup (d : Document) (name : String) (attributes : List AttributeDef) : Document :=
  d.mapGroups (·.insert name attributes)

/-- `d.removeGroup name` removes the group `name`. -/
def removeGroup (d : Document) (name : String) : Document :=
  d.mapGroups (·.erase name)

/-- `d.addElement element` adds an element at the end. -/
def addElement (d : Document) (element : ElementDef) : Document :=
  { d with elements := d.elements ++ [element] }

/-- `d.removeElement name` removes the elements called `name`. -/
def removeElement (d : Document) (name : String) : Document :=
  { d with elements := d.elements.filter (·.name != name) }

/-- `d.addRole version role graphics` adds a role to the vocabulary of `version`. -/
def addRole (d : Document) (version : Aria.Version) (role : Aria.Role) (graphics : Bool) :
    Document :=
  d.mapAria version (·.addRole role graphics)

/-- `d.removeRole version name` removes the roles called `name` from the vocabulary of `version`. -/
def removeRole (d : Document) (version : Aria.Version) (name : String) : Document :=
  d.mapAria version (·.removeRole name)

/-- `d.addProperty version property` adds a property to the vocabulary of `version`. -/
def addProperty (d : Document) (version : Aria.Version) (property : Aria.Property) : Document :=
  d.mapAria version (·.addProperty property)

end Document

end MarkupSemantics
