import MarkupSemantics.Proofs.SelectorSyntax
import MarkupSemantics.Tree.Element

/-!
# What the text of a selector matches

The text of every part and of every compound of a syntax tree is read as the tests that it stands
for, by `Part.tests?_chars` and `Compound.compound?_chars`, and the tests hold where the tree means
it. The main statement is `satisfies_text_iff`: an element matches the text of a selector exactly if
the selector is true of it.
-/

namespace MarkupSemantics.Tree

/-- A look-up gives the value that the node carries under the name. -/
theorem Node.attribute?_eq_some_iff {n : Node} {name value : String} :
    n.attribute? name = some value ↔ n.Carries name value := by
  rw [Node.attribute?, Option.map_eq_some_iff]
  constructor
  · rintro ⟨⟨written, _⟩, hfind, rfl⟩
    obtain ⟨hwritten, before, after, hattributes, hbefore⟩ := List.find?_eq_some_iff_append.1 hfind
    exact ⟨before, written, after, hattributes, eq_of_beq hwritten, fun other hother => by
      simpa [Text.equalAscii] using hbefore other hother⟩
  · rintro ⟨before, written, after, hattributes, hwritten, hbefore⟩
    refine ⟨(written, value), List.find?_eq_some_iff_append.2 ⟨beq_iff_eq.2 hwritten, before, after,
      hattributes, fun other hother => ?_⟩, rfl⟩
    simpa [Text.equalAscii] using hbefore other hother

namespace Selector

/-! ### Reading a text back -/

/-- `t.test` is the test that the type `t` stands for. -/
def TypeName.test : TypeName → Test
  | any => .type "*"
  | named name => .type name.text

mutual
/-- `part.test` is the test that `part` stands for. -/
def Part.test : Part → Test
  | .has attr => .has attr.text
  | .equals attr value => .equals attr.text value.value
  | .not compound => .not compound.tests

/-- `c.tests` lists the tests that the compound `c` stands for. -/
def Compound.tests : Compound → List Test
  | .typed type parts => type.test :: partTests parts
  | .untyped first others => first.test :: partTests others

/-- `partTests parts` lists the tests that `parts` stand for. -/
def partTests : List Part → List Test
  | [] => []
  | part :: parts => part.test :: partTests parts
end

/-- A test in brackets is read up to the closing bracket. -/
theorem tests?_bracket {inner body rest : List Char}
    (h : Text.splitFirst ']' inner = some (body, rest)) :
    tests? ('[' :: inner) = (tests? rest).map (attributeTest body :: ·) := by
  rw [tests?]
  -- the cases carry the equations that the recursion needs, so `h` cannot be rewritten in them
  split
  · rename_i hnone
    rw [h] at hnone
    cases hnone
  · rename_i hsome
    rw [h] at hsome
    cases hsome
    rfl

/-- A negation is read up to the parenthesis that closes it. -/
theorem tests?_not {inner body rest : List Char} {negated : List Test}
    (h : splitClosing? 0 inner = some (body, rest))
    (hbody : compound? (Text.trim body) = some negated) :
    tests? (':' :: 'n' :: 'o' :: 't' :: '(' :: inner) =
      (tests? rest).map (.not negated :: ·) := by
  rw [tests?]
  split
  · rename_i hnone
    rw [h] at hnone
    cases hnone
  · rename_i hsome
    rw [h] at hsome
    cases hsome
    rw [hbody]

/-- Text without a closing bracket is read up to the bracket. -/
theorem tests?_attribute {body : List Char} (h : ']' ∉ body) (rest : List Char) :
    tests? ('[' :: body ++ [']'] ++ rest) = (tests? rest).map (attributeTest body :: ·) := by
  have hsplit : Text.splitFirst ']' (body ++ ']' :: rest) = some (body, rest) :=
    Text.split_first_eq_some.2 ⟨rfl, h⟩
  simpa using tests?_bracket hsplit

/-- A name has no character that names cannot contain. -/
theorem Name.not_mem (name : Name) {c : Char} (h : isNameChar c = false) :
    c ∉ name.text.toList :=
  fun hmem => ne_of_is_name_char (name.is_name_char c hmem) h rfl

/-- A name between brackets asks for the attribute. -/
theorem attribute_test_name (attr : Name) :
    attributeTest attr.text.toList = .has attr.text := by
  rw [attributeTest, Text.split_first_eq_none.2 (attr.not_mem rfl),
    Text.trim_of_tight attr.contained.tight, String.ofList_toList]

/-- A value is read without its quotes. -/
theorem unquoted_chars (v : QuotedValue) : unquoted v.chars = v.value.toList := by
  obtain ⟨quote, value, clean⟩ := v
  cases quote <;> simp [unquoted, QuotedValue.chars, Quote.char]

/-- A name and a value between brackets ask for the value of the attribute. -/
theorem attribute_test_value (attr : Name) (v : QuotedValue) :
    attributeTest (attr.text.toList ++ '=' :: v.chars) = .equals attr.text v.value := by
  have hsplit : Text.splitFirst '=' (attr.text.toList ++ '=' :: v.chars) =
      some (attr.text.toList, v.chars) :=
    Text.split_first_eq_some.2 ⟨rfl, attr.not_mem rfl⟩
  rw [attributeTest, hsplit]
  simp only [Text.trim_of_tight attr.contained.tight, Text.trim_of_tight v.contained.tight,
    unquoted_chars, String.ofList_toList]

/-- The text of a part starts with a character that ends a type. -/
theorem Part.exists_chars_eq (part : Part) :
    ∃ c tail, part.chars = c :: tail ∧ isTypeChar c = false := by
  cases part with
  | has attr => exact ⟨'[', _, rfl, rfl⟩
  | equals attr value => exact ⟨'[', _, rfl, rfl⟩
  | not compound => exact ⟨':', _, rfl, rfl⟩

/-- The text of a type is taken from the text of parts that follow it. -/
theorem take_while_is_type_char (name : List Char) (h : ∀ c ∈ name, isTypeChar c = true)
    (parts : List Part) : (name ++ partChars parts).takeWhile isTypeChar = name ∧
      (name ++ partChars parts).dropWhile isTypeChar = partChars parts := by
  rw [List.takeWhile_append_of_pos h, List.dropWhile_append_of_pos h]
  cases parts with
  | nil => simp [partChars]
  | cons part parts =>
      obtain ⟨c, tail, hpart, hc⟩ := part.exists_chars_eq
      simp [partChars, hpart, hc]

/-- A type has nothing in it but an asterisk and characters of names. -/
theorem TypeName.is_type_char (type : TypeName) : ∀ c ∈ type.chars, isTypeChar c = true := by
  cases type with
  | any =>
      intro c hc
      rw [List.mem_singleton.1 hc]
      rfl
  | named name =>
      intro c hc
      have hopening : c ≠ '[' := ne_of_is_name_char (name.is_name_char c hc) rfl
      have hcolon : c ≠ ':' := ne_of_is_name_char (name.is_name_char c hc) rfl
      simp [isTypeChar, hopening, hcolon]

/-- A type is not empty. -/
theorem TypeName.chars_ne_nil (type : TypeName) : type.chars ≠ [] := by
  cases type with
  | any => exact List.cons_ne_nil _ _
  | named name => exact name.ne_empty

/-- A compound that begins with a type is read as the type and then its parts. -/
theorem compound?_typed (type : TypeName) (parts : List Part) :
    compound? (type.chars ++ partChars parts) =
      (tests? (partChars parts)).map (type.test :: ·) := by
  have hne : type.chars ++ partChars parts ≠ [] :=
    List.append_ne_nil_of_left_ne_nil type.chars_ne_nil _
  obtain ⟨htake, hdrop⟩ := take_while_is_type_char type.chars type.is_type_char parts
  have htype : Test.type (String.ofList type.chars) = type.test := by
    cases type with
    | any => rfl
    | named name => exact congrArg Test.type String.ofList_toList
  rw [compound?, if_neg (by simpa using hne)]
  simp [htake, hdrop, type.chars_ne_nil, htype]

/-- A compound without a type is read as its parts. -/
theorem compound?_untyped (first : Part) (others : List Part) :
    compound? (first.chars ++ partChars others) = tests? (first.chars ++ partChars others) := by
  obtain ⟨c, tail, hfirst, hc⟩ := first.exists_chars_eq
  rw [hfirst, List.cons_append, compound?]
  simp [hc]

mutual
/-- The text of a part is read as the test that the part stands for. -/
theorem Part.tests?_chars (rest : List Char) :
    ∀ part : Part, tests? (part.chars ++ rest) = (tests? rest).map (part.test :: ·)
  | .has attr => by
      rw [Part.chars, tests?_attribute (attr.not_mem rfl), attribute_test_name, Part.test]
  | .equals attr value => by
      have hbody : ']' ∉ attr.text.toList ++ '=' :: value.chars := by
        have hvalue : ']' ∉ value.chars := fun hmem => (value.ne_of_mem_chars hmem).1 rfl
        simp [attr.not_mem (c := ']') rfl, hvalue]
      rw [Part.chars, tests?_attribute hbody, attribute_test_value, Part.test]
  | .not compound => by
      -- what stands between the parentheses is the whole compound, which is not trimmed
      have hbody : compound? (Text.trim compound.chars) = some compound.tests := by
        rw [Text.trim_of_tight compound.contained.tight, compound.compound?_chars]
      simpa [Part.chars, Part.test] using
        tests?_not (compound.contained.balanced.split_closing? rest) hbody

/-- The text of a compound is read as the tests that the compound stands for. -/
theorem Compound.compound?_chars : ∀ compound : Compound,
    compound? compound.chars = some compound.tests
  | .typed type parts => by
      rw [Compound.chars, compound?_typed, tests?_part_chars parts, Option.map_some, Compound.tests]
  | .untyped first others => by
      rw [Compound.chars, compound?_untyped, first.tests?_chars, tests?_part_chars others,
        Option.map_some, Compound.tests]

/-- Parts are read as one test each, in their order. -/
theorem tests?_part_chars : ∀ parts : List Part,
    tests? (partChars parts) = some (partTests parts)
  | [] => by rw [partChars, tests?, partTests]
  | part :: parts => by
      rw [partChars, part.tests?_chars, tests?_part_chars parts, Option.map_some, partTests]
end

/-! ### Tests and meanings -/

/-- The test of a type holds of the nodes that the type allows. -/
theorem TypeName.holds_iff (type : TypeName) (n : Node) :
    type.test.holds n = true ↔ type.Means n := by
  cases type with
  | any => simp [TypeName.test, Test.holds, TypeName.Means]
  | named name =>
      -- an asterisk is no name, so it cannot stand for every name here
      have hname : name.text ≠ "*" := fun heq =>
        name.not_mem (c := '*') rfl (by rw [heq]; decide)
      simp [TypeName.test, Test.holds, TypeName.Means, Text.equalAscii, hname]

mutual
/-- The test of a part holds exactly where the part is true. -/
theorem Part.holds_iff (n : Node) : ∀ part : Part, part.test.holds n = true ↔ part.Means n
  | .has attr => by
      simp only [Part.test, Test.holds, Part.Means, Option.isSome_iff_exists,
        Node.attribute?_eq_some_iff]
  | .equals attr value => by
      simp only [Part.test, Test.holds, Part.Means, beq_iff_eq, Node.attribute?_eq_some_iff]
  | .not compound => by
      simp only [Part.test, Test.holds, Part.Means, ← compound.all_hold_iff n, Bool.not_eq_true',
        Bool.not_eq_true]

/-- The tests of a compound hold exactly where the compound is true. -/
theorem Compound.all_hold_iff (n : Node) : ∀ compound : Compound,
    allHold n compound.tests = true ↔ compound.Means n
  | .typed type parts => by
      rw [Compound.tests, allHold, Bool.and_eq_true, type.holds_iff,
        all_hold_part_tests_iff n parts, Compound.Means]
  | .untyped first others => by
      rw [Compound.tests, allHold, Bool.and_eq_true, first.holds_iff n,
        all_hold_part_tests_iff n others, Compound.Means]

/-- The tests of several parts hold exactly where each of the parts is true. -/
theorem all_hold_part_tests_iff (n : Node) : ∀ parts : List Part,
    allHold n (partTests parts) = true ↔ AllMean n parts
  | [] => by simp only [partTests, allHold, AllMean]
  | part :: parts => by
      rw [partTests, allHold, Bool.and_eq_true, part.holds_iff n, all_hold_part_tests_iff n parts,
        AllMean]
end

/-! ### Selectors -/

/-- White space is not cut. -/
theorem Whole.of_blank {cs : List Char} (h : ∀ c ∈ cs, Text.isBlank c = true) : Whole cs := by
  have hmarks : marks.all (fun mark => !Text.isBlank mark) = true := by decide
  refine .of_plain fun c hc hmark => ?_
  have hsolid := List.all_eq_true.1 hmarks c hmark
  rw [h c hc] at hsolid
  cases hsolid

/-- An alternative with its white space is whole. -/
theorem Alternative.whole (a : Alternative) : Whole a.chars := by
  have hbefore : Whole a.before := .of_blank (List.all_eq_true.1 a.before_blank)
  have hafter : Whole a.after := .of_blank (List.all_eq_true.1 a.after_blank)
  exact (hbefore.append a.compound.contained.whole).append hafter

/-- A node matches the text of an alternative exactly if its compound is true of it. -/
theorem Alternative.matches_compound_iff (a : Alternative) (n : Node) :
    matchesCompound n a.chars = true ↔ a.compound.Means n := by
  rw [matchesCompound, Alternative.chars,
    Text.trim_padded (List.all_eq_true.1 a.before_blank) a.compound.contained.tight
      (List.all_eq_true.1 a.after_blank),
    a.compound.compound?_chars]
  exact a.compound.all_hold_iff n

/-- The text of a selector is cut into the texts of its alternatives. -/
theorem Alternatives.compounds_text (s : Alternatives) :
    compounds s.text.toList = s.toList.map Alternative.chars := by
  have hwhole : ∀ cs ∈ s.toList.map Alternative.chars, Whole cs := by
    intro cs hcs
    obtain ⟨a, _, rfl⟩ := List.mem_map.1 hcs
    exact a.whole
  rw [Alternatives.text, String.toList_ofList]
  exact Whole.compounds_intercalate hwhole

/-- An element matches the name of an attribute between brackets exactly if it has the attribute. -/
theorem satisfies_has (e : Element) (attr : Name) {selector : String}
    (h : selector.toList = (Part.has attr).chars) :
    MarkupElement.satisfies e selector =
      (e.node.isElement && (e.node.attribute? attr.text).isSome) := by
  let written : Alternative := { compound := .untyped (.has attr) [] }
  have hchars : (Part.has attr).chars = written.chars := by
    simp [written, Alternative.chars, Compound.chars, partChars]
  have hmatches : matchesCompound e.node written.chars = (e.node.attribute? attr.text).isSome := by
    rw [Bool.eq_iff_iff, written.matches_compound_iff, Option.isSome_iff_exists]
    simp only [written, Compound.Means, Part.Means, AllMean, and_true, Node.attribute?_eq_some_iff]
  show (e.node.isElement && accepts selector e.node) = _
  rw [accepts, h, hchars, written.whole.compounds_eq, List.any_cons, List.any_nil, Bool.or_false,
    hmatches]

/-- A node matches the text of a selector exactly if it is an element and some alternative of the
selector is true of it, whatever the quoted values contain and however deep compounds are
negated. -/
theorem satisfies_text_iff (e : Element) (s : Alternatives) :
    MarkupElement.satisfies e s.text = true ↔ e.node.isElement = true ∧ s.Means e.node := by
  show (e.node.isElement && accepts s.text e.node) = true ↔ _
  rw [Bool.and_eq_true, accepts, s.compounds_text, List.any_map, List.any_eq_true,
    Alternatives.Means]
  simp only [Function.comp_apply, Alternative.matches_compound_iff]

/-- The text of a selector with two alternatives, a comma inside quotes and a negated compound. -/
example :
    Alternatives.text ⟨
      { compound := .typed (.named ⟨"img", by decide, by decide⟩)
          [.equals ⟨"alt", by decide, by decide⟩ ⟨.double, "it's, here", by decide⟩]
        after := [' '] },
      [{ compound := .untyped (.not (.untyped (.has ⟨"href", by decide, by decide⟩) [])) [] }]⟩ =
    "img[alt=\"it's, here\"] ,:not([href])" := by
  decide

end Selector

end MarkupSemantics.Tree
