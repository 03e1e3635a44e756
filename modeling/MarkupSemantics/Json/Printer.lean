import MarkupSemantics.Json.Basic
import MarkupSemantics.Text.Quoted

/-!
# Writing JSON

`compact` writes a value without white space. `pretty` writes every item and every member on a
line of its own, indented by two spaces for each array or object around it; empty arrays and
objects stay on one line. Only quotes, backslashes and control characters are escaped.
-/

namespace MarkupSemantics.Json

/-- `escapedChar c` is the form of `c` inside a JSON string. -/
def escapedChar (c : Char) : List Char :=
  if c = '"' then ['\\', '"']
  else if c = '\\' then ['\\', '\\']
  else if c = '\x08' then ['\\', 'b']
  else if c = '\x0c' then ['\\', 'f']
  else if c = '\n' then ['\\', 'n']
  else if c = '\r' then ['\\', 'r']
  else if c = '\t' then ['\\', 't']
  else if c.toNat < 0x20 then
    ['\\', 'u', '0', '0', Text.hexDigit (c.toNat / 16), Text.hexDigit (c.toNat % 16)]
  else [c]

/-- `quote s` is the JSON string of `s`. -/
def quote (s : String) : String :=
  String.ofList ('"' :: s.toList.flatMap escapedChar ++ ['"'])

mutual
/-- `compact json` is the text of `json` without white space. -/
def compact : Json → String
  | null => "null"
  | bool true => "true"
  | bool false => "false"
  | number digits => digits
  | string value => quote value
  | array items => "[" ++ ",".intercalate (compactItems items) ++ "]"
  | object members => "\x7b" ++ ",".intercalate (compactMembers members) ++ "\x7d"
  | unreadable => "null"

/-- `compactItems items` lists the texts of `items` without white space. -/
def compactItems : List Json → List String
  | [] => []
  | item :: items => compact item :: compactItems items

/-- `compactMembers members` lists the texts of `members` without white space. -/
def compactMembers : List (String × Json) → List String
  | [] => []
  | (key, value) :: members => (quote key ++ ":" ++ compact value) :: compactMembers members
end

/-- `indentation depth` is the white space before a line inside `depth` arrays or objects. -/
def indentation (depth : Nat) : String :=
  String.ofList (List.replicate (2 * depth) ' ')

/-- `block opening closing depth lines` puts `lines` between two brackets, each on a line of its
own. -/
def block (opening closing : String) (depth : Nat) (lines : List String) : String :=
  if lines.isEmpty then opening ++ closing
  else
    let separator := "\n" ++ indentation (depth + 1)
    opening ++ separator ++ ("," ++ separator).intercalate lines ++
      "\n" ++ indentation depth ++ closing

mutual
/-- `prettyAt depth json` is the text of `json` inside `depth` arrays or objects. -/
def prettyAt (depth : Nat) : Json → String
  | array items => block "[" "]" depth (prettyItems (depth + 1) items)
  | object members => block "\x7b" "\x7d" depth (prettyMembers (depth + 1) members)
  | null => "null"
  | bool true => "true"
  | bool false => "false"
  | number digits => digits
  | string value => quote value
  | unreadable => "null"

/-- `prettyItems depth items` lists the texts of `items` inside `depth` arrays or objects. -/
def prettyItems (depth : Nat) : List Json → List String
  | [] => []
  | item :: items => prettyAt depth item :: prettyItems depth items

/-- `prettyMembers depth members` lists the texts of `members` inside `depth` arrays or objects. -/
def prettyMembers (depth : Nat) : List (String × Json) → List String
  | [] => []
  | (key, value) :: members =>
    (quote key ++ ": " ++ prettyAt depth value) :: prettyMembers depth members
end

/-- `pretty json` is the indented text of `json`. -/
def pretty (json : Json) : String :=
  prettyAt 0 json

end MarkupSemantics.Json
