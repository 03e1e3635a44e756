/-!
# White space

Characters with the Unicode `White_Space` property, and the trimming and splitting of text at
them. Text is a list of characters here.

`pieces` cuts text at every run of white space and keeps the empty piece before a leading run and
after a trailing one. `firstWord` is the first maximal run without white space.
-/

namespace MarkupSemantics.Text

/-- `isBlank c` says `c` has the Unicode `White_Space` property. -/
def isBlank (c : Char) : Bool :=
  let n := c.toNat
  (9 ≤ n && n ≤ 13) || n == 0x20 || n == 0x85 || n == 0xA0 || n == 0x1680 ||
    (0x2000 ≤ n && n ≤ 0x200A) || n == 0x2028 || n == 0x2029 || n == 0x202F || n == 0x205F ||
    n == 0x3000

/-- `isSolid c` says `c` is not white space. -/
def isSolid (c : Char) : Bool :=
  !isBlank c

/-- `trimStart cs` is `cs` without its leading white space. -/
def trimStart (cs : List Char) : List Char :=
  cs.dropWhile isBlank

/-- `trimEnd cs` is `cs` without its trailing white space. -/
def trimEnd (cs : List Char) : List Char :=
  (cs.reverse.dropWhile isBlank).reverse

/-- `trim cs` is `cs` without leading and trailing white space. -/
def trim (cs : List Char) : List Char :=
  trimEnd (trimStart cs)

/-- `firstWord cs` is the first maximal run of `cs` without white space, empty if there is none. -/
def firstWord (cs : List Char) : List Char :=
  (cs.dropWhile isBlank).takeWhile isSolid

/-- What is left after a run at the start is no longer than the text. -/
theorem length_drop_while_le (p : Char → Bool) (cs : List Char) :
    (cs.dropWhile p).length ≤ cs.length :=
  (List.dropWhile_suffix p).length_le

/-- Trimming never lengthens a text. -/
theorem length_trim_le (cs : List Char) : (trim cs).length ≤ cs.length := by
  have hend := length_drop_while_le isBlank (trimStart cs).reverse
  have hstart := length_drop_while_le isBlank cs
  simp only [trim, trimEnd, List.length_reverse] at hend ⊢
  exact Nat.le_trans hend hstart

/-- `pieces cs` cuts `cs` at every run of white space. The first and the last piece may be empty,
the others are not. -/
def pieces (cs : List Char) : List (List Char) :=
  match _h : cs.dropWhile isSolid with
  | [] => [cs]
  | _ :: rest => cs.takeWhile isSolid :: pieces (rest.dropWhile isBlank)
termination_by cs.length
decreasing_by
  have hsolid := length_drop_while_le isSolid cs
  have hblank := length_drop_while_le isBlank rest
  rw [_h, List.length_cons] at hsolid
  omega

end MarkupSemantics.Text
