import MarkupSemantics.Text.CaseTable

/-!
# Full lower-casing and case folding

`lowercase` is Unicode's full lower-casing of a text. Two rules go beyond the mapping of single
characters: U+0130 becomes two characters, and a capital sigma becomes a final sigma at the end of
a word, that is, where the nearest character before it that is not case-ignorable is cased and the
nearest one after it is not. `foldOrbit` lists the characters that agree with a given one up to
simple case folding.
-/

namespace MarkupSemantics.Text

/-- `CaseRun.map? runs n` is the image of `n` under the first of `runs` that covers it. -/
def CaseRun.map? (runs : List CaseRun) (n : Nat) : Option Nat :=
  (runs.find? (·.covers n)).map (·.image n)

/-- `simpleLower c` is the simple lower-case mapping of `c`. -/
def simpleLower (c : Char) : Char :=
  match CaseRun.map? lowercaseRuns c.toNat with
  | some n => Char.ofNat n
  | none => c

/-- `lowerChar c` is the full lower-case mapping of `c` outside any context. -/
def lowerChar (c : Char) : List Char :=
  if c = '\u0130' then ['i', '\u0307'] else [simpleLower c]

/-- `isCased c` says `c` has the property `Cased`. -/
def isCased (c : Char) : Bool :=
  inRanges casedRanges c.toNat

/-- `isCaseIgnorable c` says `c` has the property `Case_Ignorable`. -/
def isCaseIgnorable (c : Char) : Bool :=
  inRanges caseIgnorableRanges c.toNat

/-- `meetsCased cs` says the first character of `cs` that is not case-ignorable is cased. -/
def meetsCased (cs : List Char) : Bool :=
  match cs.dropWhile isCaseIgnorable with
  | [] => false
  | c :: _ => isCased c

/-- `lowerSigma before after` is the lower case of a capital sigma that stands between `after` and
the text whose reverse is `before`. -/
def lowerSigma (before after : List Char) : Char :=
  if meetsCased before && !meetsCased after then 'ς' else 'σ'

/-- `lowercaseAfter before cs` is the lower case of `cs` where it follows the text whose reverse is
`before`. -/
def lowercaseAfter (before : List Char) : List Char → List Char
  | [] => []
  | c :: cs =>
    (if c = 'Σ' then [lowerSigma before cs] else lowerChar c) ++ lowercaseAfter (c :: before) cs

/-- `lowercase cs` is the full lower case of the text `cs`. -/
def lowercase (cs : List Char) : List Char :=
  lowercaseAfter [] cs

/-- `lowerAscii c` maps the letters `A` to `Z` to `a` to `z` and keeps all else. -/
def lowerAscii (c : Char) : Char :=
  c.toLower

/-- `lowercaseAscii s` is `s` with the letters `A` to `Z` in lower case. -/
def lowercaseAscii (s : String) : List Char :=
  s.toList.map lowerAscii

/-- `equalAscii s t` says `s` and `t` agree up to the case of ASCII letters. -/
def equalAscii (s t : String) : Bool :=
  lowercaseAscii s == lowercaseAscii t

/-- `fold n` is the simple case folding of the code point `n`. -/
def fold (n : Nat) : Nat :=
  (CaseRun.map? foldingRuns n).getD n

/-- `foldSources n` lists the code points other than `n` whose simple case folding is `n`. -/
def foldSources (n : Nat) : List Nat :=
  foldingRuns.filterMap fun run =>
    let source := ((n : Int) - run.shift).toNat
    if run.covers source && run.image source == n then some source else none

/-- `foldOrbit n` lists the code points with the same simple case folding as `n`. -/
def foldOrbit (n : Nat) : List Nat :=
  let folded := fold n
  folded :: foldSources folded

end MarkupSemantics.Text
