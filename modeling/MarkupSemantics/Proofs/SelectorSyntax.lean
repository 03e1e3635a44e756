import MarkupSemantics.Proofs.SelectorScan
import MarkupSemantics.Proofs.WhiteSpace

/-!
# Selectors as syntax trees

A selector as a tree: compounds of a type and of parts, where a part may negate a compound of any
depth. Each tree has a text and a meaning. The scan that cuts at commas, the search for a closing
parenthesis and the trimming of white space all leave the text of a compound alone, however deep its
parts are nested; `Compound.contained` says so.
-/

namespace MarkupSemantics.Tree

/-- `n.Carries name value` says the first attribute of `n` that is called `name`, up to the case of
ASCII letters, has the value `value`. -/
def Node.Carries (n : Node) (name value : String) : Prop :=
  ∃ before written after, n.attributes = before ++ (written, value) :: after ∧
    Text.lowercaseAscii written = Text.lowercaseAscii name ∧
    ∀ other ∈ before, Text.lowercaseAscii other.1 ≠ Text.lowercaseAscii name

namespace Selector

/-! ### Trees -/

/-- `isNameChar c` says `c` may be part of the name of a type or of an attribute. -/
def isNameChar (c : Char) : Bool :=
  c.isAlphanum || c == '-' || c == '_'

/-- The name of a type or of an attribute. -/
structure Name where
  /-- The name. -/
  text : String
  /-- The name is not empty. -/
  ne_empty : text.toList ≠ []
  /-- It is made of letters, digits, hyphens and underscores. -/
  plain : text.toList.all isNameChar = true

/-- The quotes that may stand around a value. -/
inductive Quote where
  | single
  | double

/-- `q.char` is the character of the quote `q`. -/
def Quote.char : Quote → Char
  | single => '\''
  | double => '"'

/-- A value between quotes. -/
structure QuotedValue where
  /-- The quotes around the value. -/
  quote : Quote
  /-- The value. -/
  value : String
  /-- The value contains neither the quote, nor a closing bracket, nor parentheses. -/
  clean : value.toList.all (fun c => c != quote.char && c != ']' && c != '(' && c != ')') = true

/-- What a compound says about the name of an element. -/
inductive TypeName where
  /-- Every name. -/
  | any
  /-- The given name. -/
  | named (name : Name)

mutual
/-- A part of a compound. -/
inductive Part where
  /-- The element has the attribute. -/
  | has (attr : Name)
  /-- The attribute has the value. -/
  | equals (attr : Name) (value : QuotedValue)
  /-- The element does not match the compound. -/
  | not (compound : Compound)

/-- A compound, which is not empty. -/
inductive Compound where
  /-- A type and parts after it. -/
  | typed (type : TypeName) (parts : List Part)
  /-- Parts without a type. -/
  | untyped (first : Part) (others : List Part)
end

/-- A compound with white space around it. -/
structure Alternative where
  /-- The white space before the compound. -/
  before : List Char := []
  /-- The compound. -/
  compound : Compound
  /-- The white space after it. -/
  after : List Char := []
  /-- Nothing else stands before the compound. -/
  before_blank : before.all Text.isBlank = true := by decide
  /-- Nothing else stands after the compound. -/
  after_blank : after.all Text.isBlank = true := by decide

/-- A selector: one or more alternatives. -/
structure Alternatives where
  /-- The first alternative. -/
  first : Alternative
  /-- The other ones. -/
  others : List Alternative

/-- `s.toList` lists the alternatives of `s`. -/
def Alternatives.toList (s : Alternatives) : List Alternative :=
  s.first :: s.others

/-! ### Texts -/

/-- `v.chars` is `v` between its quotes. -/
def QuotedValue.chars (v : QuotedValue) : List Char :=
  v.quote.char :: v.value.toList ++ [v.quote.char]

/-- `t.chars` is the text of the type `t`. -/
def TypeName.chars : TypeName → List Char
  | any => ['*']
  | named name => name.text.toList

mutual
/-- `part.chars` is the text of `part`. -/
def Part.chars : Part → List Char
  | .has attr => '[' :: attr.text.toList ++ [']']
  | .equals attr value => '[' :: (attr.text.toList ++ '=' :: value.chars) ++ [']']
  | .not compound => [':', 'n', 'o', 't'] ++ ('(' :: compound.chars ++ [')'])

/-- `c.chars` is the text of the compound `c`. -/
def Compound.chars : Compound → List Char
  | .typed type parts => type.chars ++ partChars parts
  | .untyped first others => first.chars ++ partChars others

/-- `partChars parts` is the text of `parts`, one after the other. -/
def partChars : List Part → List Char
  | [] => []
  | part :: parts => part.chars ++ partChars parts
end

/-- `a.chars` is the text of `a` with its white space. -/
def Alternative.chars (a : Alternative) : List Char :=
  a.before ++ a.compound.chars ++ a.after

/-- `s.text` is the text of `s`, with commas between the alternatives. -/
def Alternatives.text (s : Alternatives) : String :=
  String.ofList ([','].intercalate (s.toList.map Alternative.chars))

/-! ### Meanings -/

/-- `t.Means n` says the type `t` allows the name of `n`. -/
def TypeName.Means (n : Node) : TypeName → Prop
  | any => True
  | named name => Text.lowercaseAscii name.text = Text.lowercaseAscii n.name

mutual
/-- `part.Means n` says `part` is true of `n`. -/
def Part.Means (n : Node) : Part → Prop
  | .has attr => ∃ value, n.Carries attr.text value
  | .equals attr value => n.Carries attr.text value.value
  | .not compound => ¬ compound.Means n

/-- `c.Means n` says all that the compound `c` says is true of `n`. -/
def Compound.Means (n : Node) : Compound → Prop
  | .typed type parts => type.Means n ∧ AllMean n parts
  | .untyped first others => first.Means n ∧ AllMean n others

/-- `AllMean n parts` says each of `parts` is true of `n`. -/
def AllMean (n : Node) : List Part → Prop
  | [] => True
  | part :: parts => part.Means n ∧ AllMean n parts
end

/-- `s.Means n` says some alternative of `s` is true of `n`. -/
def Alternatives.Means (n : Node) (s : Alternatives) : Prop :=
  ∃ alternative ∈ s.toList, alternative.compound.Means n

/-! ### Characters of names and values -/

/-- A character of a name is no character that names cannot contain. -/
theorem ne_of_is_name_char {c other : Char} (h : isNameChar c = true)
    (hother : isNameChar other = false) : c ≠ other := by
  rintro rfl
  rw [h] at hother
  cases hother

/-- No mark can be part of a name. -/
theorem not_mem_marks_of_is_name_char {c : Char} (h : isNameChar c = true) : c ∉ marks := by
  have hmarks : marks.all (fun mark => !isNameChar mark) = true := by decide
  intro hmem
  have hmark : isNameChar c = false := by simpa using List.all_eq_true.1 hmarks c hmem
  exact ne_of_is_name_char h hmark rfl

/-- No white space can be part of a name. -/
theorem is_blank_of_is_name_char {c : Char} (h : isNameChar c = true) :
    Text.isBlank c = false := by
  have hupper : c.isUpper = true → 65 ≤ c.toNat ∧ c.toNat ≤ 90 := of_decide_eq_true
  have hlower : c.isLower = true → 97 ≤ c.toNat ∧ c.toNat ≤ 122 := fun h =>
    (Bool.and_eq_true_iff.1 h).imp of_decide_eq_true of_decide_eq_true
  have hdigit : c.isDigit = true → 48 ≤ c.toNat ∧ c.toNat ≤ 57 := fun h =>
    (Bool.and_eq_true_iff.1 h).imp of_decide_eq_true of_decide_eq_true
  have hcode : c.toNat = 45 ∨ c.toNat = 95 ∨ (48 ≤ c.toNat ∧ c.toNat ≤ 57) ∨
      (65 ≤ c.toNat ∧ c.toNat ≤ 90) ∨ (97 ≤ c.toNat ∧ c.toNat ≤ 122) := by
    change ((((c.isUpper || c.isLower) || c.isDigit) || c == '-') || c == '_') = true at h
    simp only [Bool.or_eq_true, beq_iff_eq] at h
    rcases h with (((h | h) | h) | rfl) | rfl
    · exact .inr (.inr (.inr (.inl (hupper h))))
    · exact .inr (.inr (.inr (.inr (hlower h))))
    · exact .inr (.inr (.inl (hdigit h)))
    · exact .inl rfl
    · exact .inr (.inl rfl)
  simp only [Text.isBlank, Bool.or_eq_false_iff, Bool.and_eq_false_iff, beq_eq_false_iff_ne,
    decide_eq_false_iff_not]
  omega

/-! ### Closing parentheses -/

/-- `Balanced cs` says the search for a closing parenthesis passes over the text `cs`, at every
depth. -/
def Balanced (cs : List Char) : Prop :=
  ∀ depth rest, splitClosing? depth (cs ++ rest) =
    (splitClosing? depth rest).map fun (before, after) => (cs ++ before, after)

namespace Balanced

variable {cs ds : List Char}

/-- Balanced texts after each other are balanced. -/
theorem append (h : Balanced cs) (hmore : Balanced ds) : Balanced (cs ++ ds) := by
  intro depth rest
  rw [List.append_assoc, h, hmore, Option.map_map]
  exact congrArg (Option.map · _) (funext fun _ => by simp)

/-- A text without parentheses is balanced. -/
theorem of_plain (h : ∀ c ∈ cs, c ≠ '(' ∧ c ≠ ')') : Balanced cs := by
  intro depth rest
  induction cs with
  | nil => simp
  | cons c cs ih =>
      obtain ⟨hc, hcs⟩ := List.forall_mem_cons.1 h
      rw [List.cons_append, splitClosing?, if_neg fun hclosing => hc.2 hclosing.1]
      simp [hc, ih hcs, Function.comp_def]

/-- A balanced text between parentheses is balanced. -/
theorem parenthesized (h : Balanced cs) : Balanced ('(' :: cs ++ [')']) := by
  intro depth rest
  -- inside the parentheses the search is one level deeper, and the last one brings it back
  have hinner := h (depth + 1) (')' :: rest)
  simp [splitClosing?, hinner, Function.comp_def]

/-- The parenthesis after a balanced text is the one that closes. -/
theorem split_closing? (h : Balanced cs) (rest : List Char) :
    splitClosing? 0 (cs ++ ')' :: rest) = some (cs, rest) := by
  simp [h 0 (')' :: rest), splitClosing?]

end Balanced

/-! ### What every text of a tree has in common -/

/-- `Contained cs` says no scan of a selector sees anything but the text `cs` as a whole: it is not
cut at commas, closes its parentheses, and is not trimmed. -/
structure Contained (cs : List Char) : Prop where
  /-- The text is not cut at commas. -/
  whole : Whole cs
  /-- The text closes its parentheses. -/
  balanced : Balanced cs
  /-- The text is not trimmed. -/
  tight : Text.Tight cs

/-- Contained texts after each other are contained. -/
theorem Contained.append {cs ds : List Char} (h : Contained cs) (hmore : Contained ds) :
    Contained (cs ++ ds) :=
  ⟨h.whole.append hmore.whole, h.balanced.append hmore.balanced, h.tight.append hmore.tight⟩

/-- `isInert c` says neither a scan of a selector nor trimming takes notice of `c`. -/
def isInert (c : Char) : Bool :=
  !marks.contains c && !Text.isBlank c

/-- A text of characters that nothing takes notice of is contained. -/
theorem Contained.of_inert {cs : List Char} (h : cs.all isInert = true) : Contained cs := by
  have hinert : ∀ c ∈ cs, c ∉ marks ∧ Text.isBlank c = false := by
    intro c hc
    simpa [isInert] using List.all_eq_true.1 h c hc
  refine ⟨.of_plain fun c hc => (hinert c hc).1, .of_plain fun c hc => ?_,
    .of_solid fun c hc => (hinert c hc).2⟩
  have hmark := (hinert c hc).1
  simp only [marks, List.mem_cons, not_or] at hmark
  exact ⟨hmark.2.2.1, hmark.2.2.2.2.1⟩

/-- The characters of a name may be part of names. -/
theorem Name.is_name_char (name : Name) : ∀ c ∈ name.text.toList, isNameChar c = true :=
  List.all_eq_true.1 name.plain

/-- A name is contained. -/
theorem Name.contained (name : Name) : Contained name.text.toList := by
  refine .of_inert (List.all_eq_true.2 fun c hc => ?_)
  have hname := name.is_name_char c hc
  simp [isInert, not_mem_marks_of_is_name_char hname, is_blank_of_is_name_char hname]

/-- A type is contained. -/
theorem TypeName.contained (type : TypeName) : Contained type.chars := by
  cases type with
  | any => exact .of_inert (by decide)
  | named name => exact name.contained

/-- A quote is a single or a double one. -/
theorem Quote.char_eq (q : Quote) : q.char = '\'' ∨ q.char = '"' := by
  cases q with
  | single => exact .inl rfl
  | double => exact .inr rfl

/-- A value contains neither its quote, nor a closing bracket, nor parentheses. -/
theorem QuotedValue.ne_of_mem (v : QuotedValue) {c : Char} (hc : c ∈ v.value.toList) :
    c ≠ v.quote.char ∧ c ≠ ']' ∧ c ≠ '(' ∧ c ≠ ')' := by
  simpa [and_assoc] using List.all_eq_true.1 v.clean c hc

/-- Its quotes are no brackets and no parentheses either. -/
theorem QuotedValue.ne_of_mem_chars (v : QuotedValue) {c : Char} (hc : c ∈ v.chars) :
    c ≠ ']' ∧ c ≠ '(' ∧ c ≠ ')' := by
  have hquote : v.quote.char ≠ ']' ∧ v.quote.char ≠ '(' ∧ v.quote.char ≠ ')' := by
    cases v.quote <;> decide
  rw [QuotedValue.chars, List.mem_append, List.mem_cons, List.mem_singleton] at hc
  rcases hc with (rfl | hc) | rfl
  · exact hquote
  · exact (v.ne_of_mem hc).2
  · exact hquote

/-- A value between its quotes is contained. -/
theorem QuotedValue.contained (v : QuotedValue) : Contained v.chars := by
  have hsolid : Text.isBlank v.quote.char = false := by cases v.quote <;> rfl
  exact ⟨.quoted v.quote.char_eq fun hmem => (v.ne_of_mem hmem).1 rfl,
    .of_plain fun c hc => (v.ne_of_mem_chars hc).2, .enclosed hsolid hsolid _⟩

/-- A contained text between brackets is contained. -/
theorem Contained.bracketed {cs : List Char} (h : Contained cs) :
    Contained ('[' :: cs ++ [']']) where
  whole := h.whole.bracketed (.inr rfl) (.inr rfl)
  balanced := by
    have hopening : Balanced ['['] := .of_plain (List.forall_mem_singleton.2 (by decide))
    have hclosing : Balanced [']'] := .of_plain (List.forall_mem_singleton.2 (by decide))
    exact (hopening.append h.balanced).append hclosing
  tight := .enclosed (by decide) (by decide) cs

/-- A contained text between parentheses is contained. -/
theorem Contained.parenthesized {cs : List Char} (h : Contained cs) :
    Contained ('(' :: cs ++ [')']) :=
  ⟨h.whole.bracketed (.inl rfl) (.inl rfl), h.balanced.parenthesized,
    .enclosed (by decide) (by decide) cs⟩

/-- A name and a value with a sign between them are contained. -/
theorem Contained.equals (attr : Name) (value : QuotedValue) :
    Contained (attr.text.toList ++ '=' :: value.chars) := by
  have hsign : Contained ['='] := .of_inert (by decide)
  exact attr.contained.append (hsign.append value.contained)

mutual
/-- A part is contained, however deep it is negated. -/
theorem Part.contained : ∀ part : Part, Contained part.chars
  | .has attr => attr.contained.bracketed
  | .equals attr value => (Contained.equals attr value).bracketed
  | .not compound =>
      .append (.of_inert (by decide)) compound.contained.parenthesized

/-- A compound is contained. -/
theorem Compound.contained : ∀ compound : Compound, Contained compound.chars
  | .typed type parts => type.contained.append (contained_parts parts)
  | .untyped first others => first.contained.append (contained_parts others)

/-- Parts after each other are contained. -/
theorem contained_parts : ∀ parts : List Part, Contained (partChars parts)
  | [] => .of_inert rfl
  | part :: parts => part.contained.append (contained_parts parts)
end

end Selector

end MarkupSemantics.Tree
