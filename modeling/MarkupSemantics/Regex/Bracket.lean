import MarkupSemantics.Regex.Escape

/-!
# Classes in brackets

Reading a class between brackets. A class is a union of characters, ranges, named classes and
classes in inner brackets; unions are joined from left to right by the operators for intersection,
difference and symmetric difference. Hyphens at the start and a closing bracket in first place stand
for themselves.
-/

namespace MarkupSemantics.Regex

/-- A set with the number of constructs nested in its text. -/
structure NestedSet where
  /-- The set. -/
  set : Charset
  /-- How deep its constructs are nested. -/
  depth : Nat

/-- A class whose closing bracket has not been read yet. -/
structure OpenClass where
  /-- A circumflex followed the opening bracket. -/
  negated : Bool
  /-- What stands on the left of the current union, and the operator between them. -/
  left : Option (NestedSet × (Charset → Charset → Charset))
  /-- The union of the items since the last operator. -/
  items : Charset
  /-- The number of these items. -/
  count : Nat
  /-- The greatest depth of these items. -/
  depth : Nat

namespace OpenClass

/-- `c.add item` adds `item` to the current union. -/
def add (c : OpenClass) (item : NestedSet) : OpenClass :=
  { c with
    items := c.items.union item.set
    count := c.count + 1
    depth := max c.depth item.depth }

/-- `c.joined flags` joins what has been read of `c`. Operators apply to sets with other cases
added. -/
def joined (flags : Flags) (c : OpenClass) : NestedSet :=
  let right : NestedSet := ⟨c.items, if 2 ≤ c.count then c.depth + 1 else c.depth⟩
  match c.left with
  | none => right
  | some (left, operator) =>
    ⟨operator (flags.fold left.set) (flags.fold right.set), 1 + max left.depth right.depth⟩

/-- `c.operator flags join` starts the union on the right of an operator. -/
def operator (flags : Flags) (join : Charset → Charset → Charset) (c : OpenClass) : OpenClass :=
  { c with left := some (c.joined flags, join), items := Charset.none, count := 0, depth := 0 }

/-- `c.close? flags` is the set of `c` at its closing bracket. -/
def close? (flags : Flags) (c : OpenClass) : Option NestedSet :=
  let inner := c.joined flags
  (flags.sealed? c.negated inner.set).map (⟨·, inner.depth + 1⟩)

end OpenClass

/-- `flags.leadingHyphens c cs` reads the hyphens at the start of the class `c`. -/
def Flags.leadingHyphens (flags : Flags) (c : OpenClass) (cs : List Char) :
    OpenClass × List Char :=
  match _h : flags.skip cs with
  | [] => (c, [])
  | first :: rest =>
    if first = '-' then flags.leadingHyphens (c.add ⟨Charset.one '-', 0⟩) rest
    else (c, first :: rest)
termination_by cs.length
decreasing_by
  have hskip := flags.length_skip_le cs
  rw [_h, List.length_cons] at hskip
  omega

/-- `flags.openClass cs` reads the start of a class, after its opening bracket. -/
def Flags.openClass (flags : Flags) (cs : List Char) : OpenClass × List Char :=
  let (negated, cs) :=
    match flags.skip cs with
    | '^' :: rest => (true, rest)
    | rest => (false, rest)
  let (opened, rest) := flags.leadingHyphens ⟨negated, none, Charset.none, 0, 0⟩ cs
  match opened.count, rest with
  | 0, ']' :: rest => (opened.add ⟨Charset.one ']', 0⟩, rest)
  | _, _ => (opened, rest)

/-- `flags.asciiClass? cs` reads a class of ASCII by its name between colons, after the opening
bracket. -/
def Flags.asciiClass? (flags : Flags) (cs : List Char) : Option (Option Charset × List Char) := do
  let rest ← if cs.head? = some ':' then some cs.tail else none
  let (negated, rest) := if rest.head? = some '^' then (true, rest.tail) else (false, rest)
  let (name, rest) ← splitAt? [':'] rest
  let rest ← if rest.head? = some ']' then some rest.tail else none
  let set ← Charset.asciiClasses.lookup (String.ofList name)
  return (flags.sealed? negated set, rest)

/-- `flags.classAtom? cs` reads a single character or an escape inside a class. -/
def Flags.classAtom? (flags : Flags) (cs : List Char) : Option (Atom × List Char) :=
  match cs with
  | [] => none
  | '\\' :: rest => flags.escape? rest
  | c :: rest => some (.literal c, rest)

/-- `flags.classLiteral? atom` is the character that `atom` is. Without Unicode classes it must be
an ASCII character. -/
def Flags.classLiteral? (flags : Flags) : Atom → Option Char
  | .literal c => if flags.unicode || c.toNat < 0x80 then some c else none
  | _ => none

/-- `flags.classItem? cs` reads an item of a class: an escape, a character, or a range. -/
def Flags.classItem? (flags : Flags) (cs : List Char) : Option (Charset × List Char) := do
  let (atom, rest) ← flags.classAtom? cs
  let single : Option (Charset × List Char) :=
    match atom with
    | .set set => some (set, flags.skip rest)
    | _ => (flags.classLiteral? atom).map fun c => (Charset.one c, flags.skip rest)
  match flags.skip rest with
  | [] => none
  | '-' :: more =>
    match flags.skip more with
    | ']' :: _ => single
    | '-' :: _ => single
    | ending => do
      let (last, rest) ← flags.classAtom? ending
      let first ← flags.classLiteral? atom
      let last ← flags.classLiteral? last
      if first ≤ last then return (Charset.range first last, rest) else none
  | _ => single

/-- What has been read of a class: still open, with the classes around it, or closed. -/
inductive ClassReading where
  | within (inner : OpenClass) (outer : List OpenClass)
  | closed (set : NestedSet)

/-- `flags.classStep? inner outer cs` reads the next part of the class `inner`. -/
def Flags.classStep? (flags : Flags) (inner : OpenClass) (outer : List OpenClass) (cs : List Char) :
    Option (ClassReading × List Char) :=
  let operator (join : Charset → Charset → Charset) (rest : List Char) :=
    some (.within (inner.operator flags join) outer, rest)
  match flags.skip cs with
  | [] => none
  | '[' :: rest =>
    match flags.asciiClass? rest with
    | some (set, rest) => set.map fun set => (.within (inner.add ⟨set, 0⟩) outer, rest)
    | none =>
      let (opened, rest) := flags.openClass rest
      some (.within opened (inner :: outer), rest)
  | ']' :: rest =>
    match inner.close? flags, outer with
    | none, _ => none
    | some set, [] => some (.closed set, rest)
    | some set, enclosing :: outer => some (.within (enclosing.add set) outer, rest)
  | '&' :: '&' :: rest => operator Charset.intersection rest
  | '-' :: '-' :: rest => operator Charset.difference rest
  | '~' :: '~' :: rest => operator Charset.symmetricDifference rest
  | rest => do
    let (set, rest) ← flags.classItem? rest
    return (.within (inner.add ⟨set, 0⟩) outer, rest)

/-- `flags.readClass? inner outer cs` reads to the closing bracket of the outermost class. -/
def Flags.readClass? (flags : Flags) (inner : OpenClass) (outer : List OpenClass) (cs : List Char) :
    Option (NestedSet × List Char) :=
  match flags.classStep? inner outer cs with
  | none => none
  | some (.closed set, rest) => some (set, rest)
  | some (.within inner outer, rest) =>
    if rest.length < cs.length then flags.readClass? inner outer rest else none
termination_by cs.length

/-- `flags.class? cs` reads a class, after its opening bracket. -/
def Flags.class? (flags : Flags) (cs : List Char) : Option (NestedSet × List Char) :=
  let (opened, rest) := flags.openClass cs
  flags.readClass? opened [] rest

end MarkupSemantics.Regex
