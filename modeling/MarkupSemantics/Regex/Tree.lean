import MarkupSemantics.Regex.Charset

/-!
# Regular expressions

The expressions that a pattern is read into. Groups, captures and greediness leave no trace, since
only the existence of a match matters. `Regex.states` estimates the size of an automaton for the
expression, on which there is a limit.
-/

namespace MarkupSemantics

/-- A condition on the characters before and after a position, which are missing at the ends of the
text. -/
abbrev Regex.Assertion := Option Char → Option Char → Bool

/-- A regular expression. -/
inductive Regex where
  /-- Matches the empty text. -/
  | empty
  /-- Matches one character of the set. -/
  | one (set : Charset)
  /-- Matches the empty text where the assertion holds. -/
  | assertion (holds : Regex.Assertion)
  /-- Matches a text of the first expression followed by one of the second. -/
  | concat (first second : Regex)
  /-- Matches the texts of both expressions. -/
  | alternate (left right : Regex)
  /-- Matches at least `least` texts of the body in a row, and `extra` more if there is a bound. -/
  | repeated (body : Regex) (least : Nat) (extra : Option Nat)

namespace Regex

/-- `states r` estimates the number of states of an automaton for `r`. -/
def states : Regex → Nat
  | empty => 1
  | one _ => 1
  | assertion _ => 1
  | concat first second => states first + states second
  | alternate left right => 1 + states left + states right
  | repeated body least none => (least + 1) * states body
  | repeated body least (some extra) => (least + extra) * states body

/-- The greatest number of states that an expression may have. -/
def stateLimit : Nat :=
  327680

namespace Assertion

/-- Holds at the start of the text. -/
def textStart : Assertion :=
  fun before _ => before.isNone

/-- Holds at the end of the text. -/
def textEnd : Assertion :=
  fun _ after => after.isNone

/-- Holds at the start of a line. -/
def lineStart : Assertion :=
  fun before _ => before.isNone || before == some '\n'

/-- Holds at the end of a line. -/
def lineEnd : Assertion :=
  fun _ after => after.isNone || after == some '\n'

/-- Holds at the start of a line where carriage returns end lines too, but not between a carriage
return and a line feed. -/
def returnLineStart : Assertion :=
  fun before after =>
    before.isNone || before == some '\n' || (before == some '\r' && after != some '\n')

/-- Holds at the end of a line where carriage returns end lines too, but not between a carriage
return and a line feed. -/
def returnLineEnd : Assertion :=
  fun before after =>
    after.isNone || after == some '\r' || (after == some '\n' && before != some '\r')

variable (word : Charset)

/-- Holds where exactly one neighbour is part of a word. -/
def wordBoundary : Assertion :=
  fun before after => before.any word != after.any word

/-- Holds where both neighbours or none are part of a word. -/
def noWordBoundary : Assertion :=
  fun before after => before.any word == after.any word

/-- Holds where a word starts. -/
def wordStart : Assertion :=
  fun before after => !before.any word && after.any word

/-- Holds where a word ends. -/
def wordEnd : Assertion :=
  fun before after => before.any word && !after.any word

/-- Holds where no word is on the left. -/
def wordStartHalf : Assertion :=
  fun before _ => !before.any word

/-- Holds where no word is on the right. -/
def wordEndHalf : Assertion :=
  fun _ after => !after.any word

end Assertion

/-- `flags.start` is the assertion of a circumflex. -/
def Flags.start (flags : Flags) : Assertion :=
  if !flags.multiLine then Assertion.textStart
  else if flags.carriageReturn then Assertion.returnLineStart
  else Assertion.lineStart

/-- `flags.stop` is the assertion of a dollar sign. -/
def Flags.stop (flags : Flags) : Assertion :=
  if !flags.multiLine then Assertion.textEnd
  else if flags.carriageReturn then Assertion.returnLineEnd
  else Assertion.lineEnd

end Regex

end MarkupSemantics
