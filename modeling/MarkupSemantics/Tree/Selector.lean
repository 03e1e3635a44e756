import MarkupSemantics.Text.Blank
import MarkupSemantics.Text.Split
import MarkupSemantics.Tree.Node

/-!
# Selectors

A selector is a list of compounds separated by commas. A compound is a type name followed by tests
on attributes and by negated compounds; a compound that is not written in this way matches nothing.
Commas inside quotes, brackets or parentheses do not separate compounds.
-/

namespace MarkupSemantics.Tree

/-- A test of a compound selector. -/
inductive Test where
  /-- The node has this name, which may be an asterisk. -/
  | type (name : String)
  /-- The node has this attribute. -/
  | has (attr : String)
  /-- The attribute has this value. -/
  | equals (attr value : String)
  /-- Some of the tests fail. -/
  | not (tests : List Test)

mutual
/-- `test.holds node` says `node` passes `test`. -/
def Test.holds (node : Node) : Test → Bool
  | .type name => name == "*" || Text.equalAscii name node.name
  | .has attr => (node.attribute? attr).isSome
  | .equals attr value => node.attribute? attr == some value
  | .not tests => !allHold node tests

/-- `allHold node tests` says `node` passes all of `tests`. -/
def allHold (node : Node) : List Test → Bool
  | [] => true
  | test :: tests => test.holds node && allHold node tests
end

namespace Selector

/-- Where a scan of a selector is: inside which quotes, and inside how many brackets and
parentheses. -/
structure Scan where
  /-- The open quote. -/
  quote : Option Char
  /-- The number of open brackets and parentheses. -/
  depth : Nat
  deriving DecidableEq

/-- `s.next c` is where the scan is after the character `c`. -/
def Scan.next (s : Scan) (c : Char) : Scan :=
  match s.quote with
  | some quote => if c = quote then { s with quote := none } else s
  | none =>
    if c = '\'' ∨ c = '"' then { s with quote := some c }
    else if c = '(' ∨ c = '[' then { s with depth := s.depth + 1 }
    else if c = ')' ∨ c = ']' then { s with depth := s.depth - 1 }
    else s

/-- `s.isSeparator c` says `c` is a comma between compounds. -/
def Scan.isSeparator (s : Scan) (c : Char) : Bool :=
  s.quote.isNone && s.depth == 0 && c == ','

/-- `consHead c parts` puts `c` in front of the first of `parts`. -/
def consHead (c : Char) : List (List Char) → List (List Char)
  | [] => [[c]]
  | part :: parts => (c :: part) :: parts

/-- `compoundsFrom s cs` cuts `cs` at the commas between compounds, from the point `s` of a scan. -/
def compoundsFrom (s : Scan) : List Char → List (List Char)
  | [] => [[]]
  | c :: cs =>
    if s.isSeparator c then [] :: compoundsFrom s cs
    else consHead c (compoundsFrom (s.next c) cs)

/-- `compounds cs` cuts `cs` at the commas between compounds. -/
def compounds (cs : List Char) : List (List Char) :=
  compoundsFrom ⟨none, 0⟩ cs

/-- `unquoted cs` is `cs` without quotes of one kind around it. -/
def unquoted (cs : List Char) : List Char :=
  let between (quote : Char) : Option (List Char) :=
    match cs with
    | [] => none
    | first :: rest =>
      if first = quote ∧ rest.getLast? = some quote then some rest.dropLast else none
  ((between '\'').or (between '"')).getD cs

/-- `attributeTest body` is the test that `body` writes between brackets. -/
def attributeTest (body : List Char) : Test :=
  match Text.splitFirst '=' body with
  | none => .has (String.ofList (Text.trim body))
  | some (name, value) =>
    .equals (String.ofList (Text.trim name)) (String.ofList (unquoted (Text.trim value)))

/-- `splitClosing? depth cs` is the text before and after the parenthesis that closes the `depth`
open ones and the one before `cs`. -/
def splitClosing? (depth : Nat) : List Char → Option (List Char × List Char)
  | [] => none
  | c :: cs =>
    if c = ')' ∧ depth = 0 then some ([], cs)
    else
      let inner := if c = '(' then depth + 1 else if c = ')' then depth - 1 else depth
      (splitClosing? inner cs).map fun (before, after) => (c :: before, after)

/-- What stands before and after a closing parenthesis is shorter than the text with it. -/
theorem length_split_closing? {depth : Nat} {cs before after : List Char}
    (h : splitClosing? depth cs = some (before, after)) :
    before.length < cs.length ∧ after.length < cs.length := by
  induction cs generalizing depth before with
  | nil => simp [splitClosing?] at h
  | cons c cs ih =>
    simp only [splitClosing?] at h
    split at h
    · cases h
      simp
    · obtain ⟨⟨before', after'⟩, hinner, heq⟩ := Option.map_eq_some_iff.1 h
      cases heq
      have hlength := ih hinner
      simp only [List.length_cons]
      exact ⟨Nat.succ_lt_succ hlength.1, Nat.lt_succ_of_lt hlength.2⟩

/-- `isTypeChar c` says `c` may be part of a type name. -/
def isTypeChar (c : Char) : Bool :=
  c != '[' && c != ':'

mutual
/-- `tests? cs` reads the tests after the type name. -/
def tests? (cs : List Char) : Option (List Test) :=
  match cs with
  | [] => some []
  | '[' :: inner =>
    match _h : Text.splitFirst ']' inner with
    | none => none
    | some (body, rest) => (tests? rest).map (attributeTest body :: ·)
  | ':' :: 'n' :: 'o' :: 't' :: '(' :: inner =>
    match _h : splitClosing? 0 inner with
    | none => none
    | some (body, rest) =>
      match compound? (Text.trim body) with
      | none => none
      | some negated => (tests? rest).map (.not negated :: ·)
  | _ => none
termination_by (cs.length, 0)
decreasing_by
  · have hlength := (Text.length_split_first _h).2
    apply Prod.Lex.left
    simp only [List.length_cons]
    omega
  · have hlength := (length_split_closing? _h).1
    have htrim := Text.length_trim_le body
    apply Prod.Lex.left
    simp only [List.length_cons]
    omega
  · have hlength := (length_split_closing? _h).2
    apply Prod.Lex.left
    simp only [List.length_cons]
    omega

/-- `compound? cs` reads a compound without white space around it. -/
def compound? (cs : List Char) : Option (List Test) :=
  if cs.isEmpty then none
  else
    let name := cs.takeWhile isTypeChar
    let type := if name.isEmpty then [] else [Test.type (String.ofList name)]
    (tests? (cs.dropWhile isTypeChar)).map (type ++ ·)
termination_by (cs.length, 1)
decreasing_by
  have hlength := Text.length_drop_while_le isTypeChar cs
  rcases Nat.lt_or_eq_of_le hlength with hlt | heq
  · exact Prod.Lex.left _ _ hlt
  · rw [heq]
    exact Prod.Lex.right _ (by omega)
end

/-- `matchesCompound node cs` says `node` matches the compound `cs`. -/
def matchesCompound (node : Node) (cs : List Char) : Bool :=
  match compound? (Text.trim cs) with
  | some tests => allHold node tests
  | none => false

/-- `accepts selector node` says `node` matches one of the compounds of `selector`. -/
def accepts (selector : String) (node : Node) : Bool :=
  (compounds selector.toList).any (matchesCompound node)

end Selector

end MarkupSemantics.Tree
