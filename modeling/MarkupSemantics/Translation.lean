import MarkupSemantics.Decimal.Integer
import MarkupSemantics.StringMap

/-!
# Message templates

A message is made from a template in which a number between braces stands for an argument. The
arguments are filled in one after the other, so a later one also fills the numbers that an earlier
one brings in.
-/

namespace MarkupSemantics

/-- A way to make a message from a template and its arguments. -/
abbrev Translator := String → List String → String

namespace Translation

/-- `replaceAll old new cs` replaces every occurrence of `old` in `cs`, from left to right. -/
def replaceAll (old new : List Char) : List Char → List Char
  | [] => []
  | c :: cs =>
    if old.isPrefixOf (c :: cs) then new ++ replaceAll old new (cs.drop (old.length - 1))
    else c :: replaceAll old new cs
termination_by cs => cs.length
decreasing_by
  · simp only [List.length_drop, List.length_cons]
    omega
  · simp

/-- `placeholder i` is what stands for argument `i` in a template. -/
def placeholder (i : Nat) : List Char :=
  '\x7b' :: Decimal.digits i ++ ['\x7d']

/-- `fillFrom i template arguments` fills in `arguments`, of which the first has the number `i`. -/
def fillFrom (i : Nat) (template : List Char) : List String → List Char
  | [] => template
  | argument :: arguments =>
    fillFrom (i + 1) (replaceAll (placeholder i) argument.toList template) arguments

/-- `plain template arguments` is `template` with its arguments filled in. -/
def plain : Translator :=
  fun template arguments => String.ofList (fillFrom 0 template.toList arguments)

/-- `localized texts` first replaces a template that is a key of `texts` by the text under it. -/
def localized (texts : StringMap String) : Translator :=
  fun template arguments => plain ((texts.get? template).getD template) arguments

end Translation

end MarkupSemantics
