import MarkupSemantics.Text.Blank
import MarkupSemantics.Text.Casing
import MarkupSemantics.Text.Category

/-!
# Sets of characters

The sets that the classes of a regular expression denote, given by their membership tests, and the
flags under which they are read. With Unicode classes off, a class ranges over ASCII and its
complement is not a set of characters; `sealed?` refuses it.
-/

namespace MarkupSemantics

/-- A set of characters. -/
abbrev Charset := Char → Bool

namespace Charset

/-- The set without characters. -/
def none : Charset :=
  fun _ => false

/-- `one c` is the set of `c` alone. -/
def one (c : Char) : Charset :=
  (· == c)

/-- `range first last` is the set of the characters from `first` to `last`. -/
def range (first last : Char) : Charset :=
  fun c => first ≤ c && c ≤ last

/-- `oneOf cs` is the set of the characters of the text `cs`. -/
def oneOf (cs : String) : Charset :=
  fun c => cs.toList.contains c

/-- `union s t` is the set of the characters in `s` or in `t`. -/
def union (s t : Charset) : Charset :=
  fun c => s c || t c

/-- `intersection s t` is the set of the characters in `s` and in `t`. -/
def intersection (s t : Charset) : Charset :=
  fun c => s c && t c

/-- `difference s t` is the set of the characters in `s` and not in `t`. -/
def difference (s t : Charset) : Charset :=
  fun c => s c && !t c

/-- `symmetricDifference s t` is the set of the characters in exactly one of `s` and `t`. -/
def symmetricDifference (s t : Charset) : Charset :=
  fun c => s c != t c

/-- `complement s` is the set of the characters not in `s`. -/
def complement (s : Charset) : Charset :=
  fun c => !s c

/-- The ASCII letters. -/
def asciiLetter : Charset :=
  union (range 'a' 'z') (range 'A' 'Z')

/-- The ASCII digits. -/
def asciiDigit : Charset :=
  range '0' '9'

/-- The ASCII white space that `\s` stands for. -/
def asciiSpace : Charset :=
  union (range '\t' '\r') (one ' ')

/-- The ASCII letters, digits and the underscore. -/
def asciiWord : Charset :=
  union asciiLetter (union asciiDigit (one '_'))

/-- The visible ASCII characters. -/
def asciiVisible : Charset :=
  range '!' '~'

/-- The classes of ASCII that have a name inside brackets. -/
def asciiClasses : List (String × Charset) := [
  ("alnum", union asciiLetter asciiDigit),
  ("alpha", asciiLetter),
  ("ascii", range '\x00' '\x7f'),
  ("blank", oneOf "\t "),
  ("cntrl", union (range '\x00' '\x1f') (one '\x7f')),
  ("digit", asciiDigit),
  ("graph", asciiVisible),
  ("lower", range 'a' 'z'),
  ("print", range ' ' '~'),
  ("punct", difference asciiVisible (union asciiLetter asciiDigit)),
  ("space", asciiSpace),
  ("upper", range 'A' 'Z'),
  ("word", asciiWord),
  ("xdigit", union asciiDigit (union (range 'a' 'f') (range 'A' 'F')))]

/-- The characters of words in any script. -/
def word : Charset :=
  fun c => Text.isWord c.toNat

/-- The decimal digits of any script. -/
def digit : Charset :=
  fun c => Text.categoryOf c.toNat == .Nd

end Charset

namespace Regex

/-- The flags that an expression may set for what follows in its group. The flag that swaps greedy
and reluctant repetition is read and has no effect on whether a text is matched. -/
structure Flags where
  /-- Letters match in either case. -/
  insensitive : Bool
  /-- The anchors match at line ends. -/
  multiLine : Bool
  /-- The dot matches a line feed too. -/
  dotAll : Bool
  /-- Classes range over all characters and not over ASCII alone. -/
  unicode : Bool
  /-- White space and comments are skipped. -/
  extended : Bool
  /-- A carriage return ends a line too. -/
  carriageReturn : Bool
  deriving DecidableEq

/-- The flags in force when none are given. -/
def Flags.initial : Flags :=
  ⟨false, false, false, true, false, false⟩

/-- `flags.fold s` adds the other cases of the characters of `s` when case is ignored. -/
def Flags.fold (flags : Flags) (s : Charset) : Charset :=
  if !flags.insensitive then s
  else if flags.unicode then fun c => (Text.foldOrbit c.toNat).any fun n => s (Char.ofNat n)
  else fun c => s c || s c.toLower || s c.toUpper

/-- `flags.negated? negated s` is `s` or its complement, which exists only among all characters. -/
def Flags.negated? (flags : Flags) (negated : Bool) (s : Charset) : Option Charset :=
  if !negated then some s else if flags.unicode then some s.complement else none

/-- `flags.sealed? negated s` is the class of the set `s`: first other cases are added, then the
class is negated. -/
def Flags.sealed? (flags : Flags) (negated : Bool) (s : Charset) : Option Charset :=
  flags.negated? negated (flags.fold s)

/-- `flags.word` is the set of the characters of words. -/
def Flags.word (flags : Flags) : Charset :=
  if flags.unicode then Charset.word else Charset.asciiWord

/-- `flags.shorthand? letter` is the set that a backslash and the lower-case `letter` denote. -/
def Flags.shorthand? (flags : Flags) (letter : Char) : Option Charset :=
  match letter with
  | 'd' => some (if flags.unicode then Charset.digit else Charset.asciiDigit)
  | 's' => some (if flags.unicode then Text.isBlank else Charset.asciiSpace)
  | 'w' => some flags.word
  | _ => none

/-- `flags.dot?` is the set that a dot matches. -/
def Flags.dot? (flags : Flags) : Option Charset :=
  if !flags.unicode then none
  else if flags.dotAll then some Charset.none.complement
  else if flags.carriageReturn then some (Charset.oneOf "\n\r").complement
  else some (Charset.one '\n').complement

end Regex

end MarkupSemantics
