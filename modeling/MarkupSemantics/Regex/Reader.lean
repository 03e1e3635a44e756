import MarkupSemantics.Decimal.Integer
import MarkupSemantics.Regex.Bracket
import MarkupSemantics.Text.Property

/-!
# Reading a regular expression

`Regex.ofText?` reads an expression under given flags. Groups are read with a stack of what is still
open; flags set inside a group last to its end. Look-around, back-references, repetitions without a
body or with wrong bounds, repeated group names, and expressions nested too deep or too large are
refused.
-/

namespace MarkupSemantics.Regex

/-- A part of an expression that has been read. -/
structure Part where
  /-- The expression of the part. -/
  regex : Regex
  /-- How deep its constructs are nested. -/
  depth : Nat
  /-- The part may be repeated, which a setting of flags may not. -/
  repeatable : Bool

/-- The greatest depth of nested constructs. -/
def depthLimit : Nat :=
  250

namespace Part

/-- The part that matches the empty text. -/
def empty : Part :=
  ⟨.empty, 0, true⟩

/-- `greatestDepth parts` is the depth of the deepest of `parts`. -/
def greatestDepth (parts : List Part) : Nat :=
  parts.foldl (fun depth part => max depth part.depth) 0

/-- `concat parts` is the sequence of `parts`. -/
def concat : List Part → Part
  | [] => empty
  | [part] => { part with repeatable := true }
  | parts =>
    ⟨parts.foldr (fun part rest => .concat part.regex rest) .empty, greatestDepth parts + 1, true⟩

/-- `alternate parts` is the choice between `parts`. -/
def alternate : List Part → Part
  | [] => empty
  | [part] => part
  | part :: parts =>
    ⟨parts.foldl (fun left part => .alternate left part.regex) part.regex,
      greatestDepth (part :: parts) + 1, true⟩

/-- `part.repeated? least extra` repeats `part`. -/
def repeated? (part : Part) (least : Nat) (extra : Option Nat) : Option Part :=
  if part.repeatable then some ⟨.repeated part.regex least extra, part.depth + 1, true⟩ else none

end Part

/-- A group that is still open. -/
structure OpenGroup where
  /-- The finished alternatives, the last one first. -/
  branches : List Part
  /-- The parts of the current alternative, the last one first. -/
  items : List Part
  /-- The flags in force before the group. -/
  outerFlags : Flags

/-- `g.close` is the choice between the alternatives of `g`. -/
def OpenGroup.close (g : OpenGroup) : Part :=
  Part.alternate (Part.concat g.items.reverse :: g.branches).reverse

/-- What has been read of an expression. -/
structure Progress where
  /-- The innermost open group. -/
  inner : OpenGroup
  /-- The groups around it, the nearest first. -/
  outer : List OpenGroup
  /-- The flags in force. -/
  flags : Flags
  /-- The names that groups have. -/
  names : List (List Char)

namespace Progress

/-- `p.add part` adds `part` to the current alternative. -/
def add (p : Progress) (part : Part) : Progress :=
  { p with inner := { p.inner with items := part :: p.inner.items } }

/-- `p.addSet set depth` adds a part that matches one character of `set`. -/
def addSet (p : Progress) (set : Charset) (depth : Nat) : Progress :=
  p.add ⟨.one set, depth, true⟩

/-- `p.addLiteral c` adds a part that matches `c`. -/
def addLiteral (p : Progress) (c : Char) : Progress :=
  p.addSet (p.flags.fold (Charset.one c)) 0

/-- `p.addAssertion holds` adds an assertion. -/
def addAssertion (p : Progress) (holds : Assertion) : Progress :=
  p.add ⟨.assertion holds, 0, true⟩

/-- `p.addAtom atom` adds an atom. -/
def addAtom (p : Progress) : Atom → Progress
  | .literal c => p.addLiteral c
  | .set set => p.addSet set 0
  | .assertion holds => p.addAssertion holds

/-- `p.branch` starts a new alternative. -/
def branch (p : Progress) : Progress :=
  { p with
    inner := { p.inner with
      branches := Part.concat p.inner.items.reverse :: p.inner.branches
      items := [] } }

/-- `p.openGroup flags` opens a group inside which `flags` hold. -/
def openGroup (p : Progress) (flags : Flags) : Progress :=
  { p with inner := ⟨[], [], p.flags⟩, outer := p.inner :: p.outer, flags := flags }

/-- `p.closeGroup?` closes the innermost group. -/
def closeGroup? (p : Progress) : Option Progress :=
  match p.outer with
  | [] => none
  | enclosing :: outer =>
    let body := p.inner.close
    some ({ p with inner := enclosing, outer := outer, flags := p.inner.outerFlags }.add
      { body with depth := body.depth + 1 })

/-- `p.repeat? least extra` repeats the last part. -/
def repeat? (p : Progress) (least : Nat) (extra : Option Nat) : Option Progress :=
  match p.inner.items with
  | [] => none
  | part :: items => do
    let part ← part.repeated? least extra
    return { p with inner := { p.inner with items := part :: items } }

end Progress

/-- `dropReluctant cs` drops the mark of a reluctant repetition. -/
def dropReluctant : List Char → List Char
  | '?' :: rest => rest
  | cs => cs

/-- `flags.takeDigits cs` reads decimal digits. -/
def Flags.takeDigits (flags : Flags) (cs : List Char) : List Char × List Char :=
  match _h : cs with
  | [] => ([], [])
  | c :: rest =>
    if c.isDigit then
      let (digits, rest) := flags.takeDigits (flags.skip rest)
      (c :: digits, rest)
    else ([], cs)
termination_by cs.length
decreasing_by
  have hskip := flags.length_skip_le rest
  simp only [List.length_cons]
  omega

/-- `flags.count? cs` reads a bound of a repetition, which white space may surround. -/
def Flags.count? (flags : Flags) (cs : List Char) : Option (Nat × List Char) :=
  let (digits, rest) := flags.takeDigits (cs.dropWhile Text.isBlank)
  let count := Decimal.digitsValue digits
  if !digits.isEmpty && count < Nat.pow 2 32 then
    some (count, flags.skip (rest.dropWhile Text.isBlank))
  else none

/-- `flags.bounds? cs` reads the bounds of a repetition, after its opening brace: the least count
and, if there is a greatest one, by how much it exceeds the least. -/
def Flags.bounds? (flags : Flags) (cs : List Char) : Option ((Nat × Option Nat) × List Char) := do
  let (least, rest) ← flags.count? (flags.skip cs)
  let (extra, rest) ←
    match rest with
    | ',' :: rest =>
      let rest := flags.skip rest
      if rest.head? = some '\x7d' then some (none, rest)
      else do
        let (greatest, rest) ← flags.count? rest
        if least ≤ greatest then some (some (greatest - least), rest) else none
    | _ => some (some 0, rest)
  match rest with
  | closing :: rest =>
    if closing = '\x7d' then some ((least, extra), dropReluctant (flags.skip rest)) else none
  | [] => none

/-- `Flags.set? flags letter value` gives `value` to the flag that `letter` names. -/
def Flags.set? (flags : Flags) (letter : Char) (value : Bool) : Option Flags :=
  match letter with
  | 'i' => some { flags with insensitive := value }
  | 'm' => some { flags with multiLine := value }
  | 's' => some { flags with dotAll := value }
  | 'u' => some { flags with unicode := value }
  | 'x' => some { flags with extended := value }
  | 'R' => some { flags with carriageReturn := value }
  | 'U' => some flags
  | _ => none

/-- `takeFlags? value seen flags cs` reads letters of flags up to a colon or a parenthesis. Letters
after a hyphen unset their flags; neither a letter nor the hyphen may be repeated, and a letter must
follow the hyphen. -/
def takeFlags? (value : Bool) (seen : List Char) (flags : Flags) :
    List Char → Option ((Flags × Bool) × List Char)
  | [] => none
  | c :: rest =>
    if c = ':' ∨ c = ')' then
      if seen.head? = some '-' then none else some ((flags, seen.isEmpty), c :: rest)
    else if seen.contains c then none
    else if c = '-' then takeFlags? false (c :: seen) flags rest
    else do
      let flags ← flags.set? c value
      takeFlags? value (c :: seen) flags rest

/-- `isGroupName name` says `name` may be the name of a group. -/
def isGroupName : List Char → Bool
  | [] => false
  | first :: rest =>
    (first = '_' || Text.isAlphabetic first.toNat) &&
      rest.all fun c => "_.[]".toList.contains c || Text.isAlphanumeric c.toNat

/-- `dropStart? start cs` is what follows `start` at the start of `cs`. -/
def dropStart? (start : String) (cs : List Char) : Option (List Char) :=
  if start.toList.isPrefixOf cs then some (cs.drop start.length) else none

/-- `p.namedGroup? cs` opens a group with a name, of which the text up to the closing angle bracket
is left. -/
def Progress.namedGroup? (p : Progress) (cs : List Char) : Option (Progress × List Char) := do
  let (name, rest) ← splitAt? ['>'] cs
  if isGroupName name && !p.names.contains name then
    return ({ p.openGroup p.flags with names := name :: p.names }, rest)
  else none

/-- `p.group? cs` reads the start of a group, after its opening parenthesis, or a setting of
flags. -/
def Progress.group? (p : Progress) (cs : List Char) : Option (Progress × List Char) :=
  let cs := p.flags.skip cs
  if ["?=", "?!", "?<=", "?<!"].any fun start => start.toList.isPrefixOf cs then none
  else
    match dropStart? "?P<" cs <|> dropStart? "?<" cs with
    | some rest => p.namedGroup? rest
    | none =>
      match dropStart? "?" cs with
      | none => some (p.openGroup p.flags, cs)
      | some rest => do
        let ((flags, flagless), rest) ← takeFlags? true [] p.flags rest
        match rest with
        | ':' :: rest => return (p.openGroup flags, rest)
        | _ :: rest =>
          if flagless then failure
          else return ({ p with flags := flags }.add ⟨.empty, 0, false⟩, rest)
        | [] => failure

/-- `p.step? cs` reads the next part of an expression. -/
def Progress.step? (p : Progress) (cs : List Char) : Option (Progress × List Char) :=
  match cs with
  | [] => none
  | '(' :: rest => p.group? rest
  | ')' :: rest => p.closeGroup?.map (·, rest)
  | '|' :: rest => some (p.branch, rest)
  | '[' :: rest => (p.flags.class? rest).map fun (c, rest) => (p.addSet c.set c.depth, rest)
  | '?' :: rest => (p.repeat? 0 (some 1)).map (·, dropReluctant rest)
  | '*' :: rest => (p.repeat? 0 none).map (·, dropReluctant rest)
  | '+' :: rest => (p.repeat? 1 none).map (·, dropReluctant rest)
  | '\x7b' :: rest => do
    let ((least, extra), rest) ← p.flags.bounds? rest
    return (← p.repeat? least extra, rest)
  | '\\' :: rest => (p.flags.escape? rest).map fun (atom, rest) => (p.addAtom atom, rest)
  | '.' :: rest => p.flags.dot?.map fun set => (p.addSet set 0, rest)
  | '^' :: rest => some (p.addAssertion p.flags.start, rest)
  | '$' :: rest => some (p.addAssertion p.flags.stop, rest)
  | c :: rest => some (p.addLiteral c, rest)

/-- `p.read? cs` reads the rest of an expression, at whose end only the outermost group is open. -/
def Progress.read? (p : Progress) (cs : List Char) : Option Part :=
  let cs' := p.flags.skip cs
  if cs'.isEmpty then
    if p.outer.isEmpty then some p.inner.close else none
  else
    match p.step? cs' with
    | none => none
    | some (next, rest) => if rest.length < cs.length then next.read? rest else none
termination_by cs.length

/-- `ofText? flags cs` is the expression that `cs` writes under `flags`. -/
def ofText? (flags : Flags) (cs : List Char) : Option Regex := do
  let part ← Progress.read? ⟨⟨[], [], flags⟩, [], flags, []⟩ cs
  if part.depth ≤ depthLimit && part.regex.states ≤ stateLimit then return part.regex else none

end MarkupSemantics.Regex
