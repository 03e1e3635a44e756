import MarkupSemantics.Text.Category

/-!
# Quoted text

`quoted` writes a string between double quotes so that every character is visible. Quotes and
backslashes are escaped, some control characters have short escapes, and every other character
that would not show on its own is written as `\u` with its code point in braces.
-/

namespace MarkupSemantics.Text

/-- The digit of value `d` in lower-case hexadecimal. -/
def hexDigit (d : Nat) : Char :=
  if d < 10 then Char.ofNat ('0'.toNat + d) else Char.ofNat ('a'.toNat + (d - 10))

/-- `hexDigits n` writes `n` in lower-case hexadecimal without leading zeros. -/
def hexDigits (n : Nat) : List Char :=
  if n < 16 then [hexDigit n] else hexDigits (n / 16) ++ [hexDigit (n % 16)]
termination_by n

/-- `isVisible c` says `c` shows on its own: it is printable and does not extend the character
before it. -/
def isVisible (c : Char) : Bool :=
  if c.toNat < 0x7F then 0x20 ≤ c.toNat
  else (categoryOf c.toNat).isPlain && !isGraphemeExtend c.toNat

/-- `escaped c` is the form of `c` between the quotes. -/
def escaped (c : Char) : List Char :=
  if c = '"' then ['\\', '"']
  else if c = '\\' then ['\\', '\\']
  else if c = '\n' then ['\\', 'n']
  else if c = '\r' then ['\\', 'r']
  else if c = '\t' then ['\\', 't']
  else if c = '\x00' then ['\\', '0']
  else if isVisible c then [c]
  else ['\\', 'u', '\x7b'] ++ hexDigits c.toNat ++ ['\x7d']

/-- `quoted s` is `s` between double quotes with every character visible. -/
def quoted (s : String) : String :=
  String.ofList ('"' :: s.toList.flatMap escaped ++ ['"'])

end MarkupSemantics.Text
