import MarkupSemantics.Json.Basic
import MarkupSemantics.Text.Category

/-!
# JSON tokens

The tokens of a JSON text. White space between them is the four characters of the grammar; a
string may hold any character from U+0020 on, and escapes. A string with half of a surrogate pair
and a number too large for a binary64 value have no value: they become `Json.unreadable`.
-/

namespace MarkupSemantics.Json

open Text (hexDigit?)

/-- A token of a JSON text. -/
inductive Token where
  | beginArray
  | endArray
  | beginObject
  | endObject
  | comma
  | colon
  | scalar (value : Json)
  | text (content : Option String)

/-- `isSpace c` says `c` may separate tokens. -/
def isSpace (c : Char) : Bool :=
  c == ' ' || c == '\n' || c == '\r' || c == '\t'

/-- `unit? a b c d` is the 16-bit unit that four hexadecimal digits write. -/
def unit? (a b c d : Char) : Option Nat := do
  let a ← hexDigit? a
  let b ← hexDigit? b
  let c ← hexDigit? c
  let d ← hexDigit? d
  return 4096 * a + 256 * b + 16 * c + d

/-- `isLeading n` says the unit `n` opens a surrogate pair. -/
def isLeading (n : Nat) : Bool :=
  0xD800 ≤ n && n ≤ 0xDBFF

/-- `isTrailing n` says the unit `n` closes a surrogate pair. -/
def isTrailing (n : Nat) : Bool :=
  0xDC00 ≤ n && n ≤ 0xDFFF

/-- `pair high low` is the character that a surrogate pair stands for. -/
def pair (high low : Nat) : Char :=
  Char.ofNat (0x10000 + 1024 * (high - 0xD800) + (low - 0xDC00))

/-- `unescaped? c` is the character that a backslash and `c` stand for. -/
def unescaped? (c : Char) : Option Char :=
  if c = '"' then some '"'
  else if c = '\\' then some '\\'
  else if c = '/' then some '/'
  else if c = 'b' then some '\x08'
  else if c = 'f' then some '\x0c'
  else if c = 'n' then some '\n'
  else if c = 'r' then some '\r'
  else if c = 't' then some '\t'
  else none

/-- The content of a string, which has no value once a part of it has none, and the text after
the closing quote. -/
abbrev Scanned := Option (List Char) × List Char

/-- `Scanned.push c s` puts `c` before the content of `s`. -/
def Scanned.push (c : Char) (s : Scanned) : Scanned :=
  (s.1.map (c :: ·), s.2)

/-- `Scanned.spoil s` takes the value from the content of `s`. -/
def Scanned.spoil (s : Scanned) : Scanned :=
  (none, s.2)

/-- `scanText cs` reads the rest of a string whose opening quote stands before `cs`. -/
def scanText : List Char → Option Scanned
  | [] => none
  | '"' :: rest => some (some [], rest)
  | '\\' :: 'u' :: a :: b :: c :: d :: '\\' :: 'u' :: e :: f :: g :: h :: rest =>
    match unit? a b c d, unit? e f g h with
    | some n, some m =>
      if isLeading n && isTrailing m then (scanText rest).map (Scanned.push (pair n m))
      else if isLeading n || isTrailing n then
        (scanText ('\\' :: 'u' :: e :: f :: g :: h :: rest)).map Scanned.spoil
      else
        (scanText ('\\' :: 'u' :: e :: f :: g :: h :: rest)).map (Scanned.push (Char.ofNat n))
    | _, _ => none
  | '\\' :: 'u' :: a :: b :: c :: d :: rest =>
    match unit? a b c d with
    | some n =>
      if isLeading n || isTrailing n then (scanText rest).map Scanned.spoil
      else (scanText rest).map (Scanned.push (Char.ofNat n))
    | none => none
  | '\\' :: c :: rest =>
    match unescaped? c with
    | some c => (scanText rest).map (Scanned.push c)
    | none => none
  | c :: rest => if c.toNat < 0x20 then none else (scanText rest).map (Scanned.push c)

/-- The parts of a number: its digits as a natural number, its decimal exponent, and its text. -/
structure Numeral where
  /-- The digits before and after the point. -/
  digits : Nat
  /-- The power of ten that the digits are multiplied by. -/
  exponent : Int
  /-- The number as written. -/
  text : List Char

/-- `natOf cs` is the number that the decimal digits `cs` write. -/
def natOf (cs : List Char) : Nat :=
  cs.foldl (fun value c => 10 * value + (c.toNat - '0'.toNat)) 0

/-- `scanFraction cs` reads the digits after a point, if `cs` starts with one. -/
def scanFraction (cs : List Char) : Option (List Char × List Char) :=
  match cs with
  | '.' :: rest =>
    let digits := rest.takeWhile Char.isDigit
    if digits.isEmpty then none else some (digits, rest.dropWhile Char.isDigit)
  | _ => some ([], cs)

/-- `scanExponent cs` reads the exponent, if `cs` starts with one: its text and its value. -/
def scanExponent (cs : List Char) : Option ((List Char × Int) × List Char) :=
  match cs with
  | e :: rest =>
    if e = 'e' ∨ e = 'E' then
      let (sign, rest) := match rest with
        | '+' :: rest => (['+'], rest)
        | '-' :: rest => (['-'], rest)
        | _ => ([], rest)
      let digits := rest.takeWhile Char.isDigit
      let value : Int := natOf digits
      if digits.isEmpty then none
      else some ((e :: sign ++ digits, if sign = ['-'] then -value else value),
        rest.dropWhile Char.isDigit)
    else some (([], 0), cs)
  | [] => some (([], 0), cs)

/-- `scanNumber cs` reads a number at the head of `cs`. -/
def scanNumber (cs : List Char) : Option (Numeral × List Char) := do
  let (sign, cs) := match cs with
    | '-' :: rest => (['-'], rest)
    | _ => ([], cs)
  let (whole, cs) ← match cs with
    | '0' :: rest => some (['0'], rest)
    | _ =>
      let digits := cs.takeWhile Char.isDigit
      if digits.isEmpty then none else some (digits, cs.dropWhile Char.isDigit)
  let (fraction, cs) ← scanFraction cs
  let ((exponentText, exponent), cs) ← scanExponent cs
  let point := if fraction.isEmpty then [] else '.' :: fraction
  return (⟨natOf (whole ++ fraction), exponent - fraction.length,
    sign ++ whole ++ point ++ exponentText⟩, cs)

/-- `numeral.isFinite` says the number rounds to a finite binary64 value, which its size decides:
it lies below the midpoint between the greatest finite value and the next power of two. -/
def Numeral.isFinite (numeral : Numeral) : Bool :=
  let size : Int := (Nat.toDigits 10 numeral.digits).length + numeral.exponent
  if numeral.digits = 0 || size < 300 then true
  else if 310 < size then false
  else numeral.digits * Nat.pow 10 numeral.exponent.toNat <
    (Nat.pow 2 1024 - Nat.pow 2 970) * Nat.pow 10 (-numeral.exponent).toNat

/-- `Numeral.toJson numeral` is the value of a number. -/
def Numeral.toJson (numeral : Numeral) : Json :=
  if numeral.isFinite then number (String.ofList numeral.text) else unreadable

/-- `nextToken cs` reads the token at the head of `cs`. -/
def nextToken : List Char → Option (Token × List Char)
  | '[' :: rest => some (.beginArray, rest)
  | ']' :: rest => some (.endArray, rest)
  | '\x7b' :: rest => some (.beginObject, rest)
  | '\x7d' :: rest => some (.endObject, rest)
  | ',' :: rest => some (.comma, rest)
  | ':' :: rest => some (.colon, rest)
  | 'n' :: 'u' :: 'l' :: 'l' :: rest => some (.scalar null, rest)
  | 't' :: 'r' :: 'u' :: 'e' :: rest => some (.scalar (bool true), rest)
  | 'f' :: 'a' :: 'l' :: 's' :: 'e' :: rest => some (.scalar (bool false), rest)
  | '"' :: rest => (scanText rest).map fun (content, rest) =>
    (.text (content.map String.ofList), rest)
  | cs => (scanNumber cs).map fun (numeral, rest) => (.scalar numeral.toJson, rest)

/-- `tokens? cs` is the list of the tokens of `cs`. -/
def tokens? (cs : List Char) : Option (List Token) :=
  match cs.dropWhile isSpace with
  | [] => some []
  | c :: tail =>
    match nextToken (c :: tail) with
    | none => none
    | some (token, rest) =>
      if _h : rest.length < cs.length then (tokens? rest).map (token :: ·) else none
termination_by cs.length

end MarkupSemantics.Json
