import MarkupSemantics.Regex.Tree

/-!
# Searching for a match

A match is searched for with one mark for every position of the text, before each character and at
the end. `advance` takes the positions where a match may start to those where it may end. An
expression repeated more often than the text has characters repeats itself in place, so counts need
not go beyond the number of positions.
-/

namespace MarkupSemantics.Regex

/-- One mark for every position of a text. -/
abbrev Marks := List Bool

/-- `either a b` marks the positions that `a` or `b` marks. -/
def either (a b : Marks) : Marks :=
  List.zipWith (· || ·) a b

/-- `times step count marks` takes `count` steps from `marks`, or as many as change something. -/
def times (step : Marks → Marks) : Nat → Marks → Marks
  | 0, marks => marks
  | count + 1, marks =>
    let next := step marks
    if next = marks then marks else times step count next

/-- `upTo step count marks` marks what at most `count` steps from `marks` reach. -/
def upTo (step : Marks → Marks) : Nat → Marks → Marks
  | 0, marks => marks
  | count + 1, marks =>
    let next := either marks (step marks)
    if next = marks then marks else upTo step count next

/-- `neighbours cs` lists the characters before and after every position of `cs`. -/
def neighbours (cs : List Char) : List (Option Char × Option Char) :=
  (none :: cs.map some).zip (cs.map some ++ [none])

/-- `advance cs r marks` marks the positions of `cs` where a match of `r` ends that starts at a
position in `marks`. -/
def advance (cs : List Char) : Regex → Marks → Marks
  | empty, marks => marks
  | one set, marks => false :: List.zipWith (fun mark c => mark && set c) marks cs
  | assertion holds, marks =>
    List.zipWith (fun mark (before, after) => mark && holds before after) marks (neighbours cs)
  | concat first second, marks => advance cs second (advance cs first marks)
  | alternate left right, marks => either (advance cs left marks) (advance cs right marks)
  | repeated body least extra, marks =>
    let positions := cs.length + 1
    let started := times (advance cs body) (min least positions) marks
    upTo (advance cs body) (min (extra.getD positions) positions) started

/-- `r.occursIn cs` says some part of the text `cs` matches `r`. -/
def occursIn (r : Regex) (cs : List Char) : Bool :=
  (advance cs r (List.replicate (cs.length + 1) true)).any id

end MarkupSemantics.Regex
