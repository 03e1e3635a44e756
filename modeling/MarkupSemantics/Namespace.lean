import MarkupSemantics.Json.Record
import MarkupSemantics.Text.Split

/-!
# Namespaces of names

The namespaces that an element name may belong to and the qualifiers that stand before a colon.
`splitName` takes a known qualifier off a name. `hasQualifier` is a weaker test: it looks for a
colon between two letters anywhere in the name.
-/

namespace MarkupSemantics

/-- The namespaces of element and attribute names. -/
inductive Namespace where
  | html
  | svg
  | mathML
  | xlink
  deriving DecidableEq, Repr, Inhabited

namespace Namespace

/-- `ns.uri` is the identifier of `ns`. -/
def uri : Namespace → String
  | html => "http://www.w3.org/1999/xhtml"
  | svg => "http://www.w3.org/2000/svg"
  | mathML => "http://www.w3.org/1998/Math/MathML"
  | xlink => "http://www.w3.org/1999/xlink"

/-- The namespaces. -/
def all : List Namespace :=
  [html, svg, mathML, xlink]

/-- `ofUri? uri` is the namespace with the identifier `uri`. -/
def ofUri? (uri : String) : Option Namespace :=
  all.find? (·.uri == uri)

/-- A namespace is found under its own address. -/
@[simp] theorem of_uri?_uri (ns : Namespace) : ofUri? ns.uri = some ns := by
  cases ns <;> decide

/-- `ns.qualifier?` is what stands before the colon of a qualified name in `ns`. -/
def qualifier? : Namespace → Option String
  | html => none
  | svg => some "svg"
  | mathML => some "mml"
  | xlink => some "xlink"

/-- `ofQualifier? qualifier` is the namespace that `qualifier` names. -/
def ofQualifier? : String → Option Namespace
  | "svg" => some svg
  | "mml" => some mathML
  | "math" => some mathML
  | "xlink" => some xlink
  | _ => none

/-- `ofJson? json` reads the identifier of a namespace. -/
def ofJson? (json : Json) : Option Namespace :=
  json.tag?.bind ofUri?

/-- `ns.toJson` is the identifier of `ns`. -/
def toJson (ns : Namespace) : Json :=
  .string ns.uri

/-- A namespace is read back as it is written. -/
@[simp] theorem of_json?_to_json (ns : Namespace) : ofJson? ns.toJson = some ns := by
  simp [ofJson?, toJson, Json.tag?]

end Namespace

/-- `splitName name` is the local part and the namespace of `name`. Without a known qualifier it is
the whole name, in the HTML namespace. -/
def splitName (name : String) : String × Namespace :=
  match Text.splitFirst ':' name.toList with
  | none => (name, .html)
  | some (qualifier, localName) =>
    match Namespace.ofQualifier? (String.ofList qualifier) with
    | some ns => (String.ofList localName, ns)
    | none => (name, .html)

/-- `hasQualifierIn cs` says `cs` has a colon between two ASCII letters. -/
def hasQualifierIn : List Char → Bool
  | a :: b :: c :: rest => (a.isAlpha && b = ':' && c.isAlpha) || hasQualifierIn (b :: c :: rest)
  | _ => false

/-- `hasQualifier name` says `name` has a colon between two ASCII letters. -/
def hasQualifier (name : String) : Bool :=
  hasQualifierIn name.toList

/-- `qualifiedName ns localName` is `localName` with the qualifier of `ns`. -/
def qualifiedName (ns : Namespace) (localName : String) : String :=
  match ns.qualifier? with
  | none => localName
  | some qualifier => qualifier ++ ":" ++ localName

end MarkupSemantics
