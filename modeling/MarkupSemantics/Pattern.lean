import MarkupSemantics.Regex.Matching
import MarkupSemantics.Regex.Reader
import MarkupSemantics.Text.Split

/-!
# Patterns

A pattern is a text, or a regular expression between slashes with flags after the last slash. The
flags are `i`, `g` and `m`; a text that looks otherwise stands for itself. Patterns are read and
matched with an `Engine` of regular expressions; `matchesPattern` takes the `standard` one, and also
compares literally when the expression is not valid.
-/

namespace MarkupSemantics

/-- What a pattern asks of a text, with expressions of type `ρ`. -/
inductive Pattern (ρ : Type) where
  /-- The text is this one. -/
  | literal (text : String)
  /-- The expression matches some part of the text. -/
  | regex (expression : ρ)

namespace Pattern

/-- A pattern that is not valid. -/
inductive Error where
  /-- The expression between the slashes of `pattern` is not valid. -/
  | invalidRegex (pattern : String)
  deriving DecidableEq

/-- `isFlag c` says `c` may stand after the last slash. -/
def isFlag (c : Char) : Bool :=
  c = 'i' || c = 'g' || c = 'm'

/-- `delimited? cs` is the body and the flags of a pattern that has the form of a regular
expression. The body is not empty and lies on one line. -/
def delimited? : List Char → Option (List Char × List Char)
  | '/' :: rest =>
    match Text.splitLast '/' rest with
    | some (body, flags) =>
      if body.isEmpty || body.contains '\n' || !flags.all isFlag then none else some (body, flags)
    | none => none
  | _ => none

/-- The regular expressions that patterns are written in. -/
structure Engine (ρ : Type) where
  /-- The expression that a body writes, with or without regard to case, and with anchors at line
  ends or at the ends of the text. -/
  compile? (body : List Char) (insensitive multiLine : Bool) : Option ρ
  /-- Some part of the text matches the expression. -/
  occursIn (expression : ρ) (text : List Char) : Bool

namespace Engine

variable {ρ : Type}

/-- `engine.read pattern` reads a pattern. -/
def read (engine : Engine ρ) (pattern : String) : Except Error (Pattern ρ) :=
  match delimited? pattern.toList with
  | none => .ok (.literal pattern)
  | some (body, flags) =>
    match engine.compile? body (flags.contains 'i') (flags.contains 'm') with
    | some expression => .ok (.regex expression)
    | none => .error (.invalidRegex pattern)

/-- `engine.accepts p needle` says `needle` satisfies the pattern `p`. -/
def accepts (engine : Engine ρ) : Pattern ρ → String → Bool
  | literal text, needle => text == needle
  | regex expression, needle => engine.occursIn expression needle.toList

/-- `engine.isMatch needle pattern` says `needle` satisfies `pattern`, which stands for itself when
it is not valid. -/
def isMatch (engine : Engine ρ) (needle pattern : String) : Bool :=
  match engine.read pattern with
  | .ok parsed => engine.accepts parsed needle
  | .error _ => needle == pattern

end Engine

/-- The expressions of this library. -/
def standard : Engine Regex where
  compile? body insensitive multiLine :=
    Regex.ofText? { Regex.Flags.initial with insensitive, multiLine } body
  occursIn := Regex.occursIn

/-- `ofText pattern` reads a pattern. -/
def ofText (pattern : String) : Except Error (Pattern Regex) :=
  standard.read pattern

/-- `p.accepts needle` says `needle` satisfies the pattern `p`. -/
def accepts (p : Pattern Regex) (needle : String) : Bool :=
  standard.accepts p needle

end Pattern

/-- `matchesPattern needle pattern` says `needle` satisfies `pattern`, which stands for itself when
it is not valid. -/
def matchesPattern (needle pattern : String) : Bool :=
  Pattern.standard.isMatch needle pattern

end MarkupSemantics
