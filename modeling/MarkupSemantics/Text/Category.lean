import MarkupSemantics.Text.CaseTable
import MarkupSemantics.Text.CategoryTable

/-!
# General categories

The general category of a code point, read off the table of runs, and the properties that are
defined through it: letters and marks for word characters, and what may be printed as it is.
-/

namespace MarkupSemantics.Text

/-- The thirty general categories of the Unicode standard. -/
inductive Category where
  | Lu | Ll | Lt | Lm | Lo
  | Mn | Mc | Me
  | Nd | Nl | No
  | Pc | Pd | Ps | Pe | Pi | Pf | Po
  | Sm | Sc | Sk | So
  | Zs | Zl | Zp
  | Cc | Cf | Cs | Co | Cn
  deriving DecidableEq, Repr

namespace Category

/-- The categories with their two-letter codes. -/
def codes : List (String × Category) := [
  ("Lu", Lu), ("Ll", Ll), ("Lt", Lt), ("Lm", Lm), ("Lo", Lo), ("Mn", Mn), ("Mc", Mc), ("Me", Me),
  ("Nd", Nd), ("Nl", Nl), ("No", No), ("Pc", Pc), ("Pd", Pd), ("Ps", Ps), ("Pe", Pe), ("Pi", Pi),
  ("Pf", Pf), ("Po", Po), ("Sm", Sm), ("Sc", Sc), ("Sk", Sk), ("So", So), ("Zs", Zs), ("Zl", Zl),
  ("Zp", Zp), ("Cc", Cc), ("Cf", Cf), ("Cs", Cs), ("Co", Co), ("Cn", Cn)]

/-- `isLetter g` says `g` is one of the categories of letters. -/
def isLetter : Category → Bool
  | Lu | Ll | Lt | Lm | Lo => true
  | _ => false

/-- `isMark g` says `g` is one of the categories of combining marks. -/
def isMark : Category → Bool
  | Mn | Mc | Me => true
  | _ => false

/-- `isPlain g` says a character of category `g` is printed as it is: it is neither a control or
format character, nor private, unassigned or a surrogate, nor a separator. -/
def isPlain : Category → Bool
  | Cc | Cf | Cs | Co | Cn | Zs | Zl | Zp => false
  | _ => true

end Category

/-- `hexDigit? c` is the value of the hexadecimal digit `c`. -/
def hexDigit? (c : Char) : Option Nat :=
  if c.isDigit then some (c.toNat - '0'.toNat)
  else if 'a' ≤ c ∧ c ≤ 'f' then some (c.toNat - 'a'.toNat + 10)
  else if 'A' ≤ c ∧ c ≤ 'F' then some (c.toNat - 'A'.toNat + 10)
  else none

/-- `hexValue cs` is the number that the hexadecimal digits among `cs` write. -/
def hexValue (cs : List Char) : Nat :=
  (cs.filterMap hexDigit?).foldl (fun value digit => 16 * value + digit) 0

/-- A run of the table: the code point after its last one, and its category. -/
structure CategoryRun where
  /-- The first code point beyond the run. -/
  stop : Nat
  /-- The category of the run. -/
  category : Category

/-- `readRuns start words` reads the runs written as `words`, the first of which starts at the code
point `start`. -/
def readRuns (start : Nat) : List (List Char) → List CategoryRun
  | [] => []
  | word :: words =>
    let stop := start + hexValue (word.drop 2)
    let category := (Category.codes.lookup (String.ofList (word.take 2))).getD .Cn
    ⟨stop, category⟩ :: readRuns stop words

/-- `wordsOf cs` is the list of the words of `cs`, which single spaces separate. -/
def wordsOf (cs : List Char) : List (List Char) :=
  cs.foldr
    (fun c words => if c = ' ' then [] :: words else
      match words with
      | [] => [[c]]
      | word :: rest => (c :: word) :: rest)
    [[]]

/-- The runs of equal general category, in order. -/
def categoryTable : List CategoryRun :=
  readRuns 0 (categoryRuns.flatMap fun line => wordsOf line.toList)

/-- `categoryOf n` is the general category of the code point `n`. -/
def categoryOf (n : Nat) : Category :=
  match categoryTable.find? (n < ·.stop) with
  | some run => run.category
  | none => .Cn

/-- Code points with the property `Grapheme_Extend` that are not non-spacing or enclosing marks. -/
def otherGraphemeExtend : List (Nat × Nat) := [
  (0x9BE, 0x9BE), (0x9D7, 0x9D7), (0xB3E, 0xB3E), (0xB57, 0xB57), (0xBBE, 0xBBE), (0xBD7, 0xBD7),
  (0xCC0, 0xCC0), (0xCC2, 0xCC2), (0xCC7, 0xCC8), (0xCCA, 0xCCB), (0xCD5, 0xCD6), (0xD3E, 0xD3E),
  (0xD57, 0xD57), (0xDCF, 0xDCF), (0xDDF, 0xDDF), (0x1715, 0x1715), (0x1734, 0x1734),
  (0x1B35, 0x1B35), (0x1B3B, 0x1B3B), (0x1B3D, 0x1B3D), (0x1B43, 0x1B44), (0x1BAA, 0x1BAA),
  (0x1BF2, 0x1BF3), (0x200C, 0x200C), (0x302E, 0x302F), (0xA953, 0xA953), (0xA9C0, 0xA9C0),
  (0xFF9E, 0xFF9F), (0x111C0, 0x111C0), (0x11235, 0x11235), (0x1133E, 0x1133E),
  (0x1134D, 0x1134D), (0x11357, 0x11357), (0x113B8, 0x113B8), (0x113C2, 0x113C2),
  (0x113C5, 0x113C5), (0x113C7, 0x113C9), (0x113CF, 0x113CF), (0x114B0, 0x114B0),
  (0x114BD, 0x114BD), (0x115AF, 0x115AF), (0x116B6, 0x116B6), (0x11930, 0x11930),
  (0x1193D, 0x1193D), (0x11F41, 0x11F41), (0x16FF0, 0x16FF1), (0x1D165, 0x1D165),
  (0x1D16E, 0x1D172), (0xE0020, 0xE007F)]

/-- `isGraphemeExtend n` says the code point `n` has the property `Grapheme_Extend`. -/
def isGraphemeExtend (n : Nat) : Bool :=
  match categoryOf n with
  | .Mn | .Me => true
  | _ => inRanges otherGraphemeExtend n

/-- Code points that are symbols by category and alphabetic by property. -/
def alphabeticSymbols : List (Nat × Nat) := [
  (0x24B6, 0x24E9), (0x1F130, 0x1F149), (0x1F150, 0x1F169), (0x1F170, 0x1F189)]

/-- `isWord n` says the code point `n` is a word character: alphabetic, a mark, a decimal digit, a
connector or a joiner. -/
def isWord (n : Nat) : Bool :=
  let category := categoryOf n
  category.isLetter || category.isMark || category == .Nd || category == .Nl || category == .Pc ||
    n == 0x200C || n == 0x200D || inRanges alphabeticSymbols n

end MarkupSemantics.Text
