import MarkupSemantics.Text.Category
import MarkupSemantics.Text.ScriptTable

/-!
# Properties of characters

Alphabetic, lower-case and upper-case code points as the general category and a few exceptions
determine them, the script of a code point, and the reading of category and script names.
-/

namespace MarkupSemantics.Text

/-- Combining marks that are not alphabetic. -/
def plainMarks : List (Nat × Nat) := [
  (0x300, 0x344), (0x346, 0x36F), (0x483, 0x489), (0x591, 0x5AF), (0x658, 0x658), (0x6DF, 0x6E0),
  (0x6EA, 0x6EC), (0x740, 0x74A), (0x7EB, 0x7F3), (0x7FD, 0x7FD), (0x818, 0x819), (0x82D, 0x82D),
  (0x859, 0x85B), (0x898, 0x89F), (0x8CA, 0x8D3), (0x8E0, 0x8E1), (0x8EA, 0x8EF), (0x93C, 0x93C),
  (0x94D, 0x94D), (0x951, 0x954), (0x9BC, 0x9BC), (0x9CD, 0x9CD), (0x9FE, 0x9FE), (0xA3C, 0xA3C),
  (0xA4D, 0xA4D), (0xABC, 0xABC), (0xACD, 0xACD), (0xAFD, 0xAFF), (0xB3C, 0xB3C), (0xB4D, 0xB4D),
  (0xB55, 0xB55), (0xBCD, 0xBCD), (0xC3C, 0xC3C), (0xC4D, 0xC4D), (0xCBC, 0xCBC), (0xCCD, 0xCCD),
  (0xD3B, 0xD3C), (0xD4D, 0xD4D), (0xDCA, 0xDCA), (0xE47, 0xE4C), (0xE4E, 0xE4E), (0xEBA, 0xEBA),
  (0xEC8, 0xECC), (0xECE, 0xECE), (0xF18, 0xF19), (0xF35, 0xF35), (0xF37, 0xF37), (0xF39, 0xF39),
  (0xF3E, 0xF3F), (0xF84, 0xF84), (0xF86, 0xF87), (0xFC6, 0xFC6), (0x1037, 0x1037),
  (0x1039, 0x103A), (0x135D, 0x135F), (0x1714, 0x1715), (0x1734, 0x1734), (0x17B4, 0x17B5),
  (0x17C9, 0x17D3), (0x17DD, 0x17DD), (0x180B, 0x180D), (0x180F, 0x180F), (0x1939, 0x193B),
  (0x1A60, 0x1A60), (0x1A75, 0x1A7C), (0x1A7F, 0x1A7F), (0x1AB0, 0x1ABE), (0x1AC1, 0x1ACB),
  (0x1B34, 0x1B34), (0x1B44, 0x1B44), (0x1B6B, 0x1B73), (0x1BAA, 0x1BAB), (0x1BE6, 0x1BE6),
  (0x1BF2, 0x1BF3), (0x1C37, 0x1C37), (0x1CD0, 0x1CD2), (0x1CD4, 0x1CE8), (0x1CED, 0x1CED),
  (0x1CF4, 0x1CF4), (0x1CF7, 0x1CF9), (0x1DC0, 0x1DE6), (0x1DF5, 0x1DFF), (0x20D0, 0x20F0),
  (0x2CEF, 0x2CF1), (0x2D7F, 0x2D7F), (0x302A, 0x302F), (0x3099, 0x309A), (0xA66F, 0xA672),
  (0xA67C, 0xA67D), (0xA6F0, 0xA6F1), (0xA806, 0xA806), (0xA82C, 0xA82C), (0xA8C4, 0xA8C4),
  (0xA8E0, 0xA8F1), (0xA92B, 0xA92D), (0xA953, 0xA953), (0xA9B3, 0xA9B3), (0xA9C0, 0xA9C0),
  (0xAABF, 0xAABF), (0xAAC1, 0xAAC1), (0xAAF6, 0xAAF6), (0xABEC, 0xABED), (0xFE00, 0xFE0F),
  (0xFE20, 0xFE2F), (0x101FD, 0x101FD), (0x102E0, 0x102E0), (0x10A38, 0x10A3A),
  (0x10A3F, 0x10A3F), (0x10AE5, 0x10AE6), (0x10EFC, 0x10EFF), (0x10F46, 0x10F50),
  (0x10F82, 0x10F85), (0x11046, 0x11046), (0x11070, 0x11070), (0x1107F, 0x1107F),
  (0x110B9, 0x110BA), (0x11133, 0x11134), (0x11173, 0x11173), (0x111C0, 0x111C0),
  (0x111C9, 0x111CC), (0x11235, 0x11236), (0x112E9, 0x112EA), (0x1133B, 0x1133C),
  (0x1134D, 0x1134D), (0x11366, 0x1136C), (0x11370, 0x11374), (0x113CE, 0x113D0),
  (0x113D2, 0x113D2), (0x113E1, 0x113E2), (0x11442, 0x11442), (0x11446, 0x11446),
  (0x1145E, 0x1145E), (0x114C2, 0x114C3), (0x115BF, 0x115C0), (0x1163F, 0x1163F),
  (0x116B6, 0x116B7), (0x1172B, 0x1172B), (0x11839, 0x1183A), (0x1193D, 0x1193E),
  (0x11943, 0x11943), (0x119E0, 0x119E0), (0x11A33, 0x11A34), (0x11A47, 0x11A47),
  (0x11A98, 0x11A99), (0x11C3F, 0x11C3F), (0x11D42, 0x11D42), (0x11D44, 0x11D45),
  (0x11D97, 0x11D97), (0x11F41, 0x11F42), (0x11F5A, 0x11F5A), (0x13440, 0x13440),
  (0x13447, 0x13455), (0x1612F, 0x1612F), (0x16AF0, 0x16AF4), (0x16B30, 0x16B36),
  (0x16FE4, 0x16FE4), (0x1BC9D, 0x1BC9D), (0x1CF00, 0x1CF2D), (0x1CF30, 0x1CF46),
  (0x1D165, 0x1D169), (0x1D16D, 0x1D172), (0x1D17B, 0x1D182), (0x1D185, 0x1D18B),
  (0x1D1AA, 0x1D1AD), (0x1D242, 0x1D244), (0x1DA00, 0x1DA36), (0x1DA3B, 0x1DA6C),
  (0x1DA75, 0x1DA75), (0x1DA84, 0x1DA84), (0x1DA9B, 0x1DA9F), (0x1DAA1, 0x1DAAF),
  (0x1E130, 0x1E136), (0x1E2AE, 0x1E2AE), (0x1E2EC, 0x1E2EF), (0x1E4EC, 0x1E4EF),
  (0x1E5EE, 0x1E5EF), (0x1E8D0, 0x1E8D6), (0x1E944, 0x1E946), (0x1E948, 0x1E94A),
  (0xE0100, 0xE01EF)]

/-- `isAlphabetic n` says the code point `n` has the property `Alphabetic`. -/
def isAlphabetic (n : Nat) : Bool :=
  let category := categoryOf n
  category.isLetter || category == .Nl || inRanges alphabeticSymbols n ||
    (category.isMark && !inRanges plainMarks n)

/-- `isAlphanumeric n` says the code point `n` is alphabetic or a number. -/
def isAlphanumeric (n : Nat) : Bool :=
  isAlphabetic n || [Category.Nd, .Nl, .No].contains (categoryOf n)

/-- Code points with the property `Lowercase` that are not lower-case letters. -/
def otherLowercase : List (Nat × Nat) := [
  (0xAA, 0xAA), (0xBA, 0xBA), (0x2B0, 0x2B8), (0x2C0, 0x2C1), (0x2E0, 0x2E4), (0x345, 0x345),
  (0x37A, 0x37A), (0x10FC, 0x10FC), (0x1D2C, 0x1D6A), (0x1D78, 0x1D78), (0x1D9B, 0x1DBF),
  (0x2071, 0x2071), (0x207F, 0x207F), (0x2090, 0x209C), (0x2170, 0x217F), (0x24D0, 0x24E9),
  (0x2C7C, 0x2C7D), (0xA69C, 0xA69D), (0xA770, 0xA770), (0xA7F2, 0xA7F4), (0xA7F8, 0xA7F9),
  (0xAB5C, 0xAB5F), (0xAB69, 0xAB69), (0x10780, 0x10780), (0x10783, 0x10785), (0x10787, 0x107B0),
  (0x107B2, 0x107BA), (0x1E030, 0x1E06D)]

/-- `isLowercase n` says the code point `n` has the property `Lowercase`. -/
def isLowercase (n : Nat) : Bool :=
  categoryOf n == .Ll || inRanges otherLowercase n

/-- Code points with the property `Uppercase` that are not upper-case letters. -/
def otherUppercase : List (Nat × Nat) := [
  (0x2160, 0x216F), (0x24B6, 0x24CF), (0x1F130, 0x1F149), (0x1F150, 0x1F169), (0x1F170, 0x1F189)]

/-- `isUppercase n` says the code point `n` has the property `Uppercase`. -/
def isUppercase (n : Nat) : Bool :=
  categoryOf n == .Lu || inRanges otherUppercase n

/-- A run of the table of scripts: the code point after its last one, and the code of its script. -/
structure ScriptRun where
  /-- The first code point beyond the run. -/
  stop : Nat
  /-- The four-letter code of the script. -/
  script : String

/-- `readScripts start words` reads the runs written as `words`, the first of which starts at the
code point `start`. -/
def readScripts (start : Nat) : List (List Char) → List ScriptRun
  | [] => []
  | word :: words =>
    let stop := start + hexValue (word.drop 4)
    ⟨stop, String.ofList (word.take 4)⟩ :: readScripts stop words

/-- The runs of equal script, in order. -/
def scriptTable : List ScriptRun :=
  readScripts 0 (scriptRuns.flatMap fun line => wordsOf line.toList)

/-- `scriptOf n` is the code of the script of the code point `n`. -/
def scriptOf (n : Nat) : String :=
  match scriptTable.find? (n < ·.stop) with
  | some run => run.script
  | none => "Zzzz"

/-- `script? name` is the code of the script with the given normalized name. -/
def script? (name : String) : Option String :=
  (scriptNames.find? fun (_, names) => names.contains name).map (·.1)

/-- The normalized names of the general categories and of their groups. -/
def categoryNames : List (List String × List Category) := [
  (["lu", "uppercaseletter"], [.Lu]),
  (["ll", "lowercaseletter"], [.Ll]),
  (["lt", "titlecaseletter"], [.Lt]),
  (["lc", "casedletter"], [.Lu, .Ll, .Lt]),
  (["lm", "modifierletter"], [.Lm]),
  (["lo", "otherletter"], [.Lo]),
  (["l", "letter"], [.Lu, .Ll, .Lt, .Lm, .Lo]),
  (["mn", "nonspacingmark"], [.Mn]),
  (["mc", "spacingmark"], [.Mc]),
  (["me", "enclosingmark"], [.Me]),
  (["m", "mark", "combiningmark"], [.Mn, .Mc, .Me]),
  (["nd", "decimalnumber", "digit"], [.Nd]),
  (["nl", "letternumber"], [.Nl]),
  (["no", "othernumber"], [.No]),
  (["n", "number"], [.Nd, .Nl, .No]),
  (["pc", "connectorpunctuation"], [.Pc]),
  (["pd", "dashpunctuation"], [.Pd]),
  (["ps", "openpunctuation"], [.Ps]),
  (["pe", "closepunctuation"], [.Pe]),
  (["pi", "initialpunctuation"], [.Pi]),
  (["pf", "finalpunctuation"], [.Pf]),
  (["po", "otherpunctuation"], [.Po]),
  (["p", "punct", "punctuation"], [.Pc, .Pd, .Ps, .Pe, .Pi, .Pf, .Po]),
  (["sm", "mathsymbol"], [.Sm]),
  (["sc", "currencysymbol"], [.Sc]),
  (["sk", "modifiersymbol"], [.Sk]),
  (["so", "othersymbol"], [.So]),
  (["s", "symbol"], [.Sm, .Sc, .Sk, .So]),
  (["zs", "spaceseparator"], [.Zs]),
  (["zl", "lineseparator"], [.Zl]),
  (["zp", "paragraphseparator"], [.Zp]),
  (["z", "separator"], [.Zs, .Zl, .Zp]),
  (["cc", "control", "cntrl"], [.Cc]),
  (["cf", "format"], [.Cf]),
  (["co", "privateuse"], [.Co]),
  (["cn", "unassigned"], [.Cn]),
  (["c", "other"], [.Cc, .Cf, .Co, .Cn])]

/-- `categories? name` lists the general categories that the normalized `name` stands for. -/
def categories? (name : String) : Option (List Category) :=
  (categoryNames.find? fun (names, _) => names.contains name).map (·.2)

end MarkupSemantics.Text
