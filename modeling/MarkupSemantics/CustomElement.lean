import MarkupSemantics.Text.Casing

/-!
# Names of custom elements

A name may belong to a custom element if it starts with a letter, contains a hyphen, and consists of
the characters that the standard allows in such names. Upper-case ASCII letters are accepted too,
because a document may be written with them.
-/

namespace MarkupSemantics.CustomElement

/-- The code points beyond ASCII that the name of a custom element may contain. -/
def nameRanges : List (Nat × Nat) := [
  (0xB7, 0xB7), (0xC0, 0xD6), (0xD8, 0xF6), (0xF8, 0x37D), (0x37F, 0x1FFF), (0x200C, 0x200D),
  (0x203F, 0x2040), (0x2070, 0x218F), (0x2C00, 0x2FEF), (0x3001, 0xD7FF), (0xF900, 0xFDCF),
  (0xFDF0, 0xFFFD), (0x10000, 0xEFFFF)]

/-- `isNameChar c` says the name of a custom element may contain `c` after its first letter. -/
def isNameChar (c : Char) : Bool :=
  c = '-' || c = '.' || c = '_' || c.isDigit || c.isLower || Text.inRanges nameRanges c.toNat

/-- `isPotentialName name` says `name` may be the name of a custom element. -/
def isPotentialName (name : String) : Bool :=
  match Text.lowercaseAscii name with
  | [] => false
  | first :: rest => first.isLower && rest.all isNameChar && rest.contains '-'

end MarkupSemantics.CustomElement
