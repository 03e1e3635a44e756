import Mathlib.Data.List.Forall2
import MarkupSemantics.Json.Printer
import MarkupSemantics.Json.Reader

/-!
# Reading back a printed value

The indented text of a JSON value without numbers is read as that value. `Writes cs ts` says the
text `cs` is read as the tokens `ts` wherever it stands: the printer writes the tokens of a value by
`Plain.writes_pretty_at`, and the reader puts them together again by `Plain.reads`. The main
statement is `Plain.of_text?_pretty`.
-/

namespace MarkupSemantics.Json

/-- `Plain json` says `json` is made of null, truth values and strings by arrays and objects. -/
inductive Plain : Json → Prop where
  | null : Plain .null
  | bool (value) : Plain (.bool value)
  | string (value) : Plain (.string value)
  | array {items} : (∀ item ∈ items, Plain item) → Plain (.array items)
  | object {members : List (String × Json)} :
      (∀ member ∈ members, Plain member.2) → Plain (.object members)

/-! ### Tokens of a value -/

/-- `separated tss` is the tokens of all of `tss`, with commas between them. -/
def separated (tss : List (List Token)) : List Token :=
  [.comma].intercalate tss

/-- There is no comma in a list of one. -/
theorem separated_singleton (ts : List Token) : separated [ts] = ts :=
  List.intercalate_singleton

/-- A comma stands between the first of a list and the second. -/
theorem separated_cons_cons (ts us : List Token) (tss : List (List Token)) :
    separated (ts :: us :: tss) = ts ++ ([.comma] ++ separated (us :: tss)) := by
  rw [separated, List.intercalate_cons_cons, List.append_assoc]
  rfl

/-- The tokens of the first of a list come first. -/
theorem exists_separated_eq (ts : List Token) (tss : List (List Token)) :
    ∃ rest, separated (ts :: tss) = ts ++ rest := by
  cases tss with
  | nil => exact ⟨[], by rw [separated_singleton, List.append_nil]⟩
  | cons us tss => exact ⟨_, separated_cons_cons ts us tss⟩

mutual
/-- `json.tokens` lists the tokens of `json`. -/
def tokens : Json → List Token
  | .string value => [.text (some value)]
  | .array items => .beginArray :: separated (itemTokens items) ++ [.endArray]
  | .object members => .beginObject :: separated (memberTokens members) ++ [.endObject]
  | json => [.scalar json]

/-- `itemTokens items` lists the tokens of each of `items`. -/
def itemTokens : List Json → List (List Token)
  | [] => []
  | item :: items => tokens item :: itemTokens items

/-- `memberTokens members` lists the tokens of each of `members`. -/
def memberTokens : List (String × Json) → List (List Token)
  | [] => []
  | (key, value) :: members => (.text (some key) :: .colon :: tokens value) :: memberTokens members
end

/-! ### Texts and the tokens they write -/

/-- `Writes cs ts` says the text `cs` is read as the tokens `ts`, with white space before it and
whatever stands after it. -/
def Writes (cs : List Char) (ts : List Token) : Prop :=
  ∀ space rest, (∀ c ∈ space, isSpace c = true) →
    tokens? (space ++ cs ++ rest) = (tokens? rest).map (ts ++ ·)

namespace Writes

variable {cs ds space : List Char} {ts us : List Token} {token : Token}

/-- A text that does not start with white space writes the token that is found at its head. -/
theorem of_next_token {c : Char} {tail : List Char} (hc : isSpace c = false)
    (h : ∀ rest, nextToken (c :: tail ++ rest) = some (token, rest)) :
    Writes (c :: tail) [token] := by
  intro space rest hspace
  have hdrop : (space ++ (c :: tail) ++ rest).dropWhile isSpace = c :: (tail ++ rest) := by
    rw [List.append_assoc, List.dropWhile_append_of_pos hspace, List.cons_append]
    exact List.dropWhile_cons_of_neg (by simp [hc])
  have hlength : rest.length < (space ++ (c :: tail) ++ rest).length := by
    simp only [List.length_append, List.length_cons]
    omega
  have hnext : nextToken (c :: (tail ++ rest)) = some (token, rest) := h rest
  rw [tokens?, hdrop]
  simp only [hnext, dif_pos hlength]
  rfl

/-- Texts after each other write their tokens after each other. -/
theorem append (h : Writes cs ts) (hmore : Writes ds us) : Writes (cs ++ ds) (ts ++ us) := by
  intro space rest hspace
  have hds : tokens? (ds ++ rest) = (tokens? rest).map (us ++ ·) := hmore [] rest (by simp)
  rw [← List.append_assoc, List.append_assoc (space ++ cs), h space _ hspace, hds, Option.map_map]
  exact congrArg (Option.map · _) (funext fun _ => by simp)

/-- White space before a text writes nothing. -/
theorem spaced (h : Writes cs ts) (hspace : ∀ c ∈ space, isSpace c = true) :
    Writes (space ++ cs) ts := by
  intro before rest hbefore
  rw [← List.append_assoc]
  refine h (before ++ space) rest fun c hc => ?_
  rcases List.mem_append.1 hc with hc | hc
  · exact hbefore c hc
  · exact hspace c hc

/-- A whole text is read as the tokens that it writes. -/
theorem tokens?_eq (h : Writes cs ts) : tokens? cs = some ts := by
  have hread := h [] [] (by simp)
  have hnil : tokens? [] = some [] := by
    rw [tokens?]
    rfl
  simpa [hnil] using hread

end Writes

/-! ### Strings -/

/-- A hexadecimal digit is read as its value. -/
theorem hex_digit?_hex_digit : ∀ d < 16, Text.hexDigit? (Text.hexDigit d) = some d := by
  decide

/-- An escape that writes no unit is refused, whatever follows it. -/
theorem scan_text_unit_none {a b c d : Char} (h : unit? a b c d = none) (rest : List Char) :
    scanText ('\\' :: 'u' :: a :: b :: c :: d :: rest) = none := by
  by_cases hpair : ∃ e f g h rest', rest = '\\' :: 'u' :: e :: f :: g :: h :: rest'
  · obtain ⟨e, f, g, h', rest', rfl⟩ := hpair
    rw [scanText, h]
  · rw [scanText, h]
    exact fun e f g h' rest' heq => hpair ⟨e, f, g, h', rest', heq⟩

/-- An escape of a unit outside surrogate pairs is read on its own, also where another escape
follows. -/
theorem scan_text_unit {a b c d : Char} {n : Nat} (h : unit? a b c d = some n)
    (hleading : isLeading n = false) (htrailing : isTrailing n = false) (rest : List Char) :
    scanText ('\\' :: 'u' :: a :: b :: c :: d :: rest) =
      (scanText rest).map (Scanned.push (Char.ofNat n)) := by
  -- the scan looks at two escapes in a row before it reads one of them on its own
  by_cases hpair : ∃ e f g h rest', rest = '\\' :: 'u' :: e :: f :: g :: h :: rest'
  · obtain ⟨e, f, g, h', rest', rfl⟩ := hpair
    rw [scanText, h]
    cases hnext : unit? e f g h' with
    | none => simp [scan_text_unit_none hnext]
    | some m => simp [hleading, htrailing]
  · rw [scanText, h]
    · simp [hleading, htrailing]
    · exact fun e f g h' rest' heq => hpair ⟨e, f, g, h', rest', heq⟩

/-- The escape of a control character by its number is read as the character. -/
theorem scan_text_control {c : Char} (h : c.toNat < 0x20) (rest : List Char) :
    scanText ('\\' :: 'u' :: '0' :: '0' :: Text.hexDigit (c.toNat / 16) ::
        Text.hexDigit (c.toNat % 16) :: rest) =
      (scanText rest).map (Scanned.push c) := by
  have hhigh := hex_digit?_hex_digit (c.toNat / 16) (by omega)
  have hlow := hex_digit?_hex_digit (c.toNat % 16) (by omega)
  have hunit : unit? '0' '0' (Text.hexDigit (c.toNat / 16)) (Text.hexDigit (c.toNat % 16)) =
      some c.toNat := by
    simp only [unit?, hhigh, hlow, show Text.hexDigit? '0' = some 0 from rfl,
      Option.bind_eq_bind, Option.bind_some, Option.pure_def, Option.some.injEq]
    omega
  have hsingle : isLeading c.toNat = false ∧ isTrailing c.toNat = false := by
    simp only [isLeading, isTrailing, Bool.and_eq_false_iff, decide_eq_false_iff_not]
    omega
  have hscan := scan_text_unit hunit hsingle.1 hsingle.2 rest
  rwa [Char.ofNat_toNat] at hscan

/-- An escaped character is read as the character. -/
theorem scan_text_escaped (c : Char) (rest : List Char) :
    scanText (escapedChar c ++ rest) = (scanText rest).map (Scanned.push c) := by
  -- the seven characters with an escape of their own
  by_cases hshort : c ∈ ['"', '\\', '\x08', '\x0c', '\n', '\r', '\t']
  · simp only [List.mem_cons, List.not_mem_nil, or_false] at hshort
    rcases hshort with rfl | rfl | rfl | rfl | rfl | rfl | rfl <;>
      simp [escapedChar, scanText, unescaped?]
  simp only [List.mem_cons, List.not_mem_nil, or_false, not_or] at hshort
  by_cases hcontrol : c.toNat < 0x20
  · have hescaped : escapedChar c =
        ['\\', 'u', '0', '0', Text.hexDigit (c.toNat / 16), Text.hexDigit (c.toNat % 16)] := by
      simp [escapedChar, hshort, hcontrol]
    rw [hescaped]
    exact scan_text_control hcontrol rest
  · have hescaped : escapedChar c = [c] := by simp [escapedChar, hshort, hcontrol]
    rw [hescaped]
    simp [scanText, hshort, hcontrol]

/-- An escaped string is read up to the closing quote. -/
theorem scan_text_flat_map (cs rest : List Char) :
    scanText (cs.flatMap escapedChar ++ '"' :: rest) = some (some cs, rest) := by
  induction cs with
  | nil => rfl
  | cons c cs ih =>
      rw [List.flatMap_cons, List.append_assoc, scan_text_escaped, ih]
      rfl

/-- A quoted string writes one token, whatever its characters are. -/
theorem writes_quote (s : String) : Writes (quote s).toList [.text (some s)] := by
  rw [quote, String.toList_ofList]
  refine .of_next_token (by decide) fun rest => ?_
  have hscan := scan_text_flat_map s.toList rest
  show (scanText (s.toList.flatMap escapedChar ++ ['"'] ++ rest)).map _ = _
  rw [List.append_assoc, List.singleton_append, hscan]
  simp

/-- A quote, a backslash, a control character and a character beyond the first plane, as they stand
in a text. -/
example : quote "\"\\\x07😀" = "\"\\\"\\\\\\u0007😀\"" := by
  decide

/-! ### Printing -/

/-- An indentation has nothing in it but white space. -/
theorem is_space_indentation (depth : Nat) :
    ∀ c ∈ (indentation depth).toList, isSpace c = true := by
  intro c hc
  rw [indentation, String.toList_ofList] at hc
  rw [List.eq_of_mem_replicate hc]
  rfl

/-- The white space between two lines. -/
theorem is_space_break (depth : Nat) :
    ∀ c ∈ ("\n" ++ indentation depth).toList, isSpace c = true := by
  intro c hc
  rw [String.toList_append, List.mem_append] at hc
  rcases hc with hc | hc
  · rw [List.mem_singleton.1 hc]
    rfl
  · exact is_space_indentation depth c hc

/-- `WritesEach lines tss` says each of `lines` writes the tokens at its place in `tss`. -/
abbrev WritesEach : List String → List (List Token) → Prop :=
  List.Forall₂ fun line ts => Writes line.toList ts

/-- Lines with commas and line breaks between them write their tokens with commas between them. -/
theorem writes_intercalate (depth : Nat) {line : String} {lines : List String} {ts : List Token}
    {tss : List (List Token)} (hline : Writes line.toList ts) (h : WritesEach lines tss) :
    Writes (("," ++ ("\n" ++ indentation depth)).intercalate (line :: lines)).toList
      (separated (ts :: tss)) := by
  induction h generalizing line ts with
  | nil => simpa [separated_singleton] using hline
  | cons hnext _ ih =>
      have hcomma : Writes ",".toList [.comma] := .of_next_token rfl fun _ => rfl
      have hrest := (ih hnext).spaced (is_space_break depth)
      rw [String.intercalate_cons_cons, separated_cons_cons]
      simpa only [String.toList_append, List.append_assoc] using hline.append (hcomma.append hrest)

/-- Lines between two brackets write their tokens between the tokens of the brackets. -/
theorem writes_block {opening closing : String} {first last : Token}
    (hopening : Writes opening.toList [first]) (hclosing : Writes closing.toList [last])
    {lines : List String} {tss : List (List Token)} (h : WritesEach lines tss) (depth : Nat) :
    Writes (block opening closing depth lines).toList
      (first :: separated tss ++ [last]) := by
  cases h with
  | nil => simpa [block, separated] using hopening.append hclosing
  | cons hline hrest =>
      have hlines := (writes_intercalate (depth + 1) hline hrest).spaced
        (is_space_break (depth + 1))
      have hend := hclosing.spaced (is_space_break depth)
      have hblock := hopening.append (hlines.append hend)
      simpa only [block, List.isEmpty_cons, Bool.false_eq_true, if_false, String.toList_append,
        List.append_assoc, List.cons_append, List.nil_append] using hblock

/-- The lines of an array write the tokens of its items. -/
theorem writes_each_item {items : List Json} {depth : Nat}
    (h : ∀ item ∈ items, Writes (prettyAt depth item).toList item.tokens) :
    WritesEach (prettyItems depth items) (itemTokens items) := by
  induction items with
  | nil => exact .nil
  | cons item items ih =>
      obtain ⟨hitem, hitems⟩ := List.forall_mem_cons.1 h
      exact .cons hitem (ih hitems)

/-- The lines of an object write the tokens of its members. -/
theorem writes_each_member {members : List (String × Json)} {depth : Nat}
    (h : ∀ member ∈ members, Writes (prettyAt depth member.2).toList member.2.tokens) :
    WritesEach (prettyMembers depth members) (memberTokens members) := by
  induction members with
  | nil => exact .nil
  | cons member members ih =>
      obtain ⟨key, value⟩ := member
      obtain ⟨hvalue, hmembers⟩ := List.forall_mem_cons.1 h
      have hcolon : Writes ":".toList [.colon] := .of_next_token rfl fun _ => rfl
      have hspaced : Writes (" ".toList ++ (prettyAt depth value).toList) value.tokens :=
        hvalue.spaced (List.forall_mem_singleton.2 rfl)
      have hmember := (writes_quote key).append (hcolon.append hspaced)
      refine .cons ?_ (ih hmembers)
      simpa only [String.toList_append, List.append_assoc, show ": " = ":" ++ " " from rfl,
        List.singleton_append] using hmember

/-- The indented text of a plain value writes the tokens of the value. -/
theorem Plain.writes_pretty_at {json : Json} (h : Plain json) (depth : Nat) :
    Writes (prettyAt depth json).toList json.tokens := by
  induction h generalizing depth with
  | null =>
      rw [prettyAt]
      exact .of_next_token rfl fun _ => rfl
  | bool value => cases value <;> rw [prettyAt] <;> exact .of_next_token rfl fun _ => rfl
  | string value =>
      rw [prettyAt]
      exact writes_quote value
  | array _ ih =>
      have hopening : Writes "[".toList [.beginArray] := .of_next_token rfl fun _ => rfl
      have hclosing : Writes "]".toList [.endArray] := .of_next_token rfl fun _ => rfl
      rw [prettyAt]
      exact writes_block hopening hclosing
        (writes_each_item fun item hitem => ih item hitem (depth + 1)) depth
  | object _ ih =>
      have hopening : Writes "\x7b".toList [.beginObject] :=
        .of_next_token rfl fun _ => rfl
      have hclosing : Writes "\x7d".toList [.endObject] := .of_next_token rfl fun _ => rfl
      rw [prettyAt]
      exact writes_block hopening hclosing
        (writes_each_member fun member hmember => ih member hmember (depth + 1)) depth

/-! ### Reading -/

/-- `Reads json` says the reader that waits for a value has `json` after its tokens, inside the same
frames. -/
def Reads (json : Json) : Prop :=
  ∀ frames, json.tokens.foldlM step (.value frames) = some (.complete json frames)

/-- What follows a value goes on with the value. -/
theorem Reads.fold_append {json : Json} (h : Reads json) (rest : List Token)
    (frames : List Frame) :
    (json.tokens ++ rest).foldlM step (.value frames) =
      rest.foldlM step (.complete json frames) := by
  rw [List.foldlM_append, h frames]
  rfl

/-- Items with commas between them are read one after the other, up to the end of the array. -/
theorem fold_items {item : Json} {items : List Json} (h : ∀ x ∈ item :: items, Reads x)
    (done : List Json) (frames : List Frame) :
    (separated (itemTokens (item :: items)) ++ [Token.endArray]).foldlM step
        (.value (.array done :: frames)) =
      some (.complete (.array (done.reverse ++ item :: items)) frames) := by
  obtain ⟨hitem, hitems⟩ := List.forall_mem_cons.1 h
  -- `done` grows by one item with each comma
  induction items generalizing item done with
  | nil =>
      rw [itemTokens, itemTokens, separated_singleton, hitem.fold_append]
      simp [step]
  | cons next items ih =>
      obtain ⟨hnext, hrest⟩ := List.forall_mem_cons.1 hitems
      have hfold := ih hitems (item :: done) hnext hrest
      rw [itemTokens] at hfold
      rw [itemTokens, itemTokens, separated_cons_cons, List.append_assoc, hitem.fold_append]
      simpa [step] using hfold

/-- Before the first item of an array the reader waits for a value inside the array, unless the
array ends. -/
theorem fold_first_item (json : Json) (rest : List Token) (frames : List Frame) :
    (json.tokens ++ rest).foldlM step (.firstItem frames) =
      (json.tokens ++ rest).foldlM step (.value (.array [] :: frames)) := by
  cases json <;> rfl

/-- An array is read if its items are. -/
theorem reads_array {items : List Json} (h : ∀ item ∈ items, Reads item) :
    Reads (.array items) := by
  intro frames
  cases items with
  | nil => rfl
  | cons item items =>
      obtain ⟨rest, hrest⟩ := exists_separated_eq item.tokens (itemTokens items)
      have hfold := fold_items h [] frames
      rw [itemTokens, hrest, List.append_assoc, ← fold_first_item] at hfold
      rw [tokens, itemTokens, hrest, List.cons_append, List.append_assoc]
      exact hfold

/-- A member is read as its key and then its value. -/
theorem Reads.fold_member {key : String} {value : Json} (h : Reads value)
    (done : List (Option String × Json)) (rest : List Token) (frames : List Frame) :
    (Token.text (some key) :: .colon :: value.tokens ++ rest).foldlM step (.key done frames) =
      rest.foldlM step (.complete value (.object done (some key) :: frames)) :=
  h.fold_append rest (.object done (some key) :: frames)

/-- `withKey member` is `member` as the reader holds it until the end of its object. -/
def withKey (member : String × Json) : Option String × Json :=
  (some member.1, member.2)

/-- Members with commas between them are read one after the other, up to the end of the object. -/
theorem fold_members {member : String × Json} {members : List (String × Json)}
    (h : ∀ m ∈ member :: members, Reads m.2)
    (done : List (Option String × Json)) (frames : List Frame) :
    (separated (memberTokens (member :: members)) ++ [Token.endObject]).foldlM step
        (.key done frames) =
      some (.complete (ofMembers (done.reverse ++ (member :: members).map withKey)) frames) := by
  obtain ⟨hmember, hmembers⟩ := List.forall_mem_cons.1 h
  induction members generalizing member done with
  | nil =>
      rw [memberTokens, memberTokens, separated_singleton, hmember.fold_member]
      simp [step, withKey]
  | cons next members ih =>
      obtain ⟨hnext, hrest⟩ := List.forall_mem_cons.1 hmembers
      have hfold := ih hmembers (withKey member :: done) hnext hrest
      rw [memberTokens] at hfold
      rw [memberTokens, memberTokens, separated_cons_cons, List.append_assoc, hmember.fold_member]
      simpa [step, withKey] using hfold

/-- An object has a value if each of its keys has one. -/
theorem of_members_map_with_key (members : List (String × Json)) :
    ofMembers (members.map withKey) = .object members := by
  rw [ofMembers, map_m_read_write]
  exact fun _ _ => rfl

/-- An object is read if the values of its members are. -/
theorem reads_object {members : List (String × Json)} (h : ∀ member ∈ members, Reads member.2) :
    Reads (.object members) := by
  intro frames
  cases members with
  | nil => rfl
  | cons member members =>
      obtain ⟨rest, hrest⟩ := exists_separated_eq
        (.text (some member.1) :: .colon :: member.2.tokens) (memberTokens members)
      have hfold := fold_members h [] frames
      rw [List.reverse_nil, List.nil_append, of_members_map_with_key, memberTokens, hrest] at hfold
      rw [tokens, memberTokens, hrest]
      exact hfold

/-- The reader puts the tokens of a plain value together to the value. -/
theorem Plain.reads {json : Json} (h : Plain json) : Reads json := by
  induction h with
  | null => exact fun _ => rfl
  | bool value => exact fun _ => rfl
  | string value => exact fun _ => rfl
  | array _ ih => exact reads_array ih
  | object _ ih => exact reads_object ih

/-- The indented text of a plain value is read as the value. -/
theorem Plain.of_text?_pretty {json : Json} (h : Plain json) : ofText? json.pretty = some json := by
  rw [ofText?, pretty, (h.writes_pretty_at 0).tokens?_eq, Option.bind_some, ofTokens?, h.reads]

end MarkupSemantics.Json
