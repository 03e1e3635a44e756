import MarkupSemantics.Regex.Charset
import MarkupSemantics.Text.Property

/-!
# Classes named by a property

The sets of characters that a property name denotes in an expression: general categories, scripts
and a few properties that are true or false of a character. Names are compared without regard to
case, spaces, hyphens and underscores, and a leading `is` is dropped.
-/

namespace MarkupSemantics.Regex

/-- `normalizedName cs` is the form in which property names are compared. -/
def normalizedName (cs : List Char) : String :=
  let letters (part : List Char) :=
    (part.filter fun c => c.toNat < 0x80 && !" _-".toList.contains c).map Text.lowerAscii
  match cs with
  | first :: second :: rest =>
    if [first, second].map Text.lowerAscii == ['i', 's'] then
      if letters rest == ['c'] then "isc" else String.ofList (letters rest)
    else String.ofList (letters cs)
  | _ => String.ofList (letters cs)

/-- The properties that are true or false of a character, with their normalized names. -/
def properties : List (List String × Charset) := [
  (["alpha", "alphabetic"], fun c => Text.isAlphabetic c.toNat),
  (["lower", "lowercase"], fun c => Text.isLowercase c.toNat),
  (["upper", "uppercase"], fun c => Text.isUppercase c.toNat),
  (["space", "wspace", "whitespace"], Text.isBlank),
  (["cased"], Text.isCased),
  (["ci", "caseignorable"], Text.isCaseIgnorable),
  (["ahex", "asciihexdigit"], fun c => (Text.hexDigit? c).isSome),
  (["joinc", "joincontrol"], Charset.range '\u200c' '\u200d')]

/-- `property? name` is the set of the property that is true or false of a character and has the
normalized `name`. -/
def property? (name : String) : Option Charset :=
  (properties.find? fun (names, _) => names.contains name).map (·.2)

/-- `generalCategory? name` is the set of the general category, or group of them, with the
normalized `name`. -/
def generalCategory? (name : String) : Option Charset :=
  match name with
  | "any" => some Charset.none.complement
  | "assigned" => some fun c => Text.categoryOf c.toNat != .Cn
  | "ascii" => some (Charset.range '\x00' '\x7f')
  | _ =>
    (Text.categories? name).map fun categories c => categories.contains (Text.categoryOf c.toNat)

/-- `script? name` is the set of the characters of the script with the normalized `name`. -/
def script? (name : String) : Option Charset :=
  (Text.script? name).map fun script c => Text.scriptOf c.toNat == script

/-- `namedClass? name` is the set that a single property name denotes. -/
def namedClass? (name : List Char) : Option Charset :=
  let name := normalizedName name
  (property? name <|> generalCategory? name) <|> script? name

/-- `valuedClass? property value` is the set of the characters with the given value of a
property. -/
def valuedClass? (property value : List Char) : Option Charset :=
  let value := normalizedName value
  match normalizedName property with
  | "gc" | "generalcategory" => generalCategory? value
  | "sc" | "script" => script? value
  | _ => none

end MarkupSemantics.Regex
