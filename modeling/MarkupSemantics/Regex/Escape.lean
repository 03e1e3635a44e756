import MarkupSemantics.Regex.Property
import MarkupSemantics.Regex.Tree

/-!
# Escapes in expressions

Reading what follows a backslash: a character by its code point or its usual letter, a class by its
letter or property, or an assertion. A punctuation character may always be escaped; back-references
and unknown letters are refused. Between the parts of an escape, an extended expression may have
white space and comments.
-/

namespace MarkupSemantics.Regex

/-- A part of an expression that stands for one character of a set, or for an assertion. -/
inductive Atom where
  | literal (c : Char)
  | set (s : Charset)
  | assertion (holds : Assertion)

/-- `skipIgnored comment cs` drops white space and comments at the start of `cs`, which lies inside
a comment when `comment` is true. -/
def skipIgnored : Bool → List Char → List Char
  | _, [] => []
  | true, c :: cs => skipIgnored (c != '\n') cs
  | false, c :: cs =>
    if Text.isBlank c then skipIgnored false cs
    else if c = '#' then skipIgnored true cs
    else c :: cs

/-- What is left after white space and comments is no longer than the text. -/
theorem length_skip_ignored_le (comment : Bool) (cs : List Char) :
    (skipIgnored comment cs).length ≤ cs.length := by
  induction cs generalizing comment with
  | nil => simp [skipIgnored]
  | cons c cs ih =>
    cases comment with
    | true => exact Nat.le_succ_of_le (ih _)
    | false =>
      simp only [skipIgnored]
      split
      · exact Nat.le_succ_of_le (ih _)
      · split
        · exact Nat.le_succ_of_le (ih _)
        · exact Nat.le_refl _

/-- `flags.skip cs` drops what an extended expression ignores at the start of `cs`. -/
def Flags.skip (flags : Flags) (cs : List Char) : List Char :=
  if flags.extended then skipIgnored false cs else cs

/-- What is left after what an extended expression ignores is no longer than the text. -/
theorem Flags.length_skip_le (flags : Flags) (cs : List Char) :
    (flags.skip cs).length ≤ cs.length := by
  unfold Flags.skip
  split
  · exact length_skip_ignored_le false cs
  · exact Nat.le_refl _

/-- `flags.takeHex count cs` reads `count` hexadecimal digits. -/
def Flags.takeHex (flags : Flags) : Nat → List Char → Option (List Char × List Char)
  | 0, cs => some ([], cs)
  | _ + 1, [] => none
  | count + 1, c :: cs =>
    if (Text.hexDigit? c).isSome then
      (flags.takeHex count (flags.skip cs)).map fun (digits, rest) => (c :: digits, rest)
    else none

/-- `flags.takeBraced cs` reads up to the closing brace, after the opening one. -/
def Flags.takeBraced (flags : Flags) (cs : List Char) : Option (List Char × List Char) :=
  match _h : flags.skip cs with
  | [] => none
  | c :: rest =>
    if c = '\x7d' then some ([], rest)
    else (flags.takeBraced rest).map fun (text, rest) => (c :: text, rest)
termination_by cs.length
decreasing_by
  have hskip := flags.length_skip_le cs
  rw [_h, List.length_cons] at hskip
  omega

/-- `character? n` is the character with the code point `n`. -/
def character? (n : Nat) : Option Char :=
  if n.isValidChar then some (Char.ofNat n) else none

/-- `flags.hexEscape? count cs` reads a code point, as `count` digits or in braces. Without Unicode
classes, two digits write a byte, which must be an ASCII character. -/
def Flags.hexEscape? (flags : Flags) (count : Nat) (cs : List Char) : Option (Char × List Char) :=
  match flags.skip cs with
  | [] => none
  | c :: rest =>
    if c = '\x7b' then do
      let (digits, rest) ← flags.takeBraced rest
      if digits.isEmpty || digits.any fun c => (Text.hexDigit? c).isNone then none
      else return (← character? (Text.hexValue digits), rest)
    else do
      let (digits, rest) ← flags.takeHex count (c :: rest)
      let value := Text.hexValue digits
      if count = 2 && !flags.unicode && 0x7F < value then none
      else return (← character? value, rest)

/-- `splitAt? separator cs` is the text before and after the first occurrence of `separator`. -/
def splitAt? (separator : List Char) : List Char → Option (List Char × List Char)
  | [] => none
  | c :: cs =>
    if separator.isPrefixOf (c :: cs) then some ([], (c :: cs).drop separator.length)
    else (splitAt? separator cs).map fun (before, after) => (c :: before, after)

/-- `propertyClass? negated text` is the class that `text` between braces denotes. -/
def propertyClass? (negated : Bool) (text : List Char) : Option (Bool × Charset) :=
  match splitAt? "!=".toList text with
  | some (property, value) => (valuedClass? property value).map (!negated, ·)
  | none =>
    match splitAt? [':'] text <|> splitAt? ['='] text with
    | some (property, value) => (valuedClass? property value).map (negated, ·)
    | none => (namedClass? text).map (negated, ·)

/-- `flags.propertyEscape? negated cs` reads a property, as one letter or in braces. -/
def Flags.propertyEscape? (flags : Flags) (negated : Bool) (cs : List Char) :
    Option (Charset × List Char) :=
  match flags.skip cs with
  | [] => none
  | c :: rest =>
    if !flags.unicode then none
    else if c = '\x7b' then do
      let (text, rest) ← flags.takeBraced rest
      let (negated, set) ← propertyClass? negated text
      return (← flags.sealed? negated set, rest)
    else do
      let set ← namedClass? [c]
      return (← flags.sealed? negated set, rest)

/-- `flags.takeBoundary cs` reads the letters and hyphens of the name of a boundary. -/
def Flags.takeBoundary (flags : Flags) (cs : List Char) : List Char × List Char :=
  match _h : flags.skip cs with
  | [] => ([], [])
  | c :: rest =>
    if c.isAlpha || c = '-' then
      let (name, rest) := flags.takeBoundary rest
      (c :: name, rest)
    else ([], c :: rest)
termination_by cs.length
decreasing_by
  have hskip := flags.length_skip_le cs
  rw [_h, List.length_cons] at hskip
  omega

/-- `flags.boundary? name` is the assertion of the boundary called `name`. -/
def Flags.boundary? (flags : Flags) (name : String) : Option Assertion :=
  match name with
  | "start" => some (Assertion.wordStart flags.word)
  | "end" => some (Assertion.wordEnd flags.word)
  | "start-half" => some (Assertion.wordStartHalf flags.word)
  | "end-half" => some (Assertion.wordEndHalf flags.word)
  | _ => none

/-- `flags.boundaryEscape? cs` reads the name in braces that may follow a word boundary. What does
not start like a name is left to be read as a repetition. -/
def Flags.boundaryEscape? (flags : Flags) (cs : List Char) : Option (Assertion × List Char) :=
  let plain := some (Assertion.wordBoundary flags.word, cs)
  match cs with
  | [] => plain
  | c :: rest =>
    if c ≠ '\x7b' then plain
    else
      match flags.skip rest with
      | [] => none
      | first :: _ =>
        if !(first.isAlpha || first = '-') then plain
        else
          match flags.takeBoundary rest with
          | (name, closing :: rest) =>
            if closing = '\x7d' then (flags.boundary? (String.ofList name)).map (·, rest) else none
          | (_, []) => none

/-- `isEscapable c` says a backslash before `c` makes it stand for itself. -/
def isEscapable (c : Char) : Bool :=
  c.toNat < 0x80 && !c.isAlphanum && c != '<' && c != '>'

/-- `flags.escape? cs` reads what follows a backslash. -/
def Flags.escape? (flags : Flags) (cs : List Char) : Option (Atom × List Char) :=
  let literal (c : Char) (rest : List Char) := some (Atom.literal c, rest)
  let holds (assertion : Assertion) (rest : List Char) := some (Atom.assertion assertion, rest)
  match cs with
  | [] => none
  | 'x' :: rest => (flags.hexEscape? 2 rest).map fun (c, rest) => (.literal c, rest)
  | 'u' :: rest => (flags.hexEscape? 4 rest).map fun (c, rest) => (.literal c, rest)
  | 'U' :: rest => (flags.hexEscape? 8 rest).map fun (c, rest) => (.literal c, rest)
  | 'p' :: rest => (flags.propertyEscape? false rest).map fun (set, rest) => (.set set, rest)
  | 'P' :: rest => (flags.propertyEscape? true rest).map fun (set, rest) => (.set set, rest)
  | 'a' :: rest => literal '\x07' rest
  | 'f' :: rest => literal '\x0c' rest
  | 't' :: rest => literal '\t' rest
  | 'n' :: rest => literal '\n' rest
  | 'r' :: rest => literal '\r' rest
  | 'v' :: rest => literal '\x0b' rest
  | 'A' :: rest => holds Assertion.textStart rest
  | 'z' :: rest => holds Assertion.textEnd rest
  | 'b' :: rest => (flags.boundaryEscape? rest).map fun (holds, rest) => (.assertion holds, rest)
  | 'B' :: rest => holds (Assertion.noWordBoundary flags.word) rest
  | '<' :: rest => holds (Assertion.wordStart flags.word) rest
  | '>' :: rest => holds (Assertion.wordEnd flags.word) rest
  | c :: rest =>
    if isEscapable c then literal c rest
    else do
      let set ← flags.shorthand? c.toLower
      return (.set (← flags.negated? c.isUpper set), rest)

end MarkupSemantics.Regex
