import Mathlib.Data.List.Forall2
import MarkupSemantics.CustomElement

/-!
# The grammar of the names of custom elements

`IsNameCharacter` lists the characters of the production `PCENChar` in the order of the standard,
and `NameShape` is the production `PotentialCustomElementName`: a lower-case letter, characters, a
hyphen, and characters. A name may have several hyphens, so it may have this shape in several ways.
The main statement is `is_potential_name_of_shape`.
-/

namespace MarkupSemantics.CustomElement

/-- `IsNameCharacter c` says `c` is one of the characters of `PCENChar`. -/
def IsNameCharacter (c : Char) : Prop :=
  c = '-' ∨ c = '.' ∨ (0x30 ≤ c.toNat ∧ c.toNat ≤ 0x39) ∨ c = '_' ∨
  (0x61 ≤ c.toNat ∧ c.toNat ≤ 0x7A) ∨ c.toNat = 0xB7 ∨ (0xC0 ≤ c.toNat ∧ c.toNat ≤ 0xD6) ∨
  (0xD8 ≤ c.toNat ∧ c.toNat ≤ 0xF6) ∨ (0xF8 ≤ c.toNat ∧ c.toNat ≤ 0x37D) ∨
  (0x37F ≤ c.toNat ∧ c.toNat ≤ 0x1FFF) ∨ (0x200C ≤ c.toNat ∧ c.toNat ≤ 0x200D) ∨
  (0x203F ≤ c.toNat ∧ c.toNat ≤ 0x2040) ∨ (0x2070 ≤ c.toNat ∧ c.toNat ≤ 0x218F) ∨
  (0x2C00 ≤ c.toNat ∧ c.toNat ≤ 0x2FEF) ∨ (0x3001 ≤ c.toNat ∧ c.toNat ≤ 0xD7FF) ∨
  (0xF900 ≤ c.toNat ∧ c.toNat ≤ 0xFDCF) ∨ (0xFDF0 ≤ c.toNat ∧ c.toNat ≤ 0xFFFD) ∨
  (0x10000 ≤ c.toNat ∧ c.toNat ≤ 0xEFFFF)

/-- `NameShape cs` says `cs` is a letter from `a` to `z` followed by characters of names, a hyphen,
and characters of names. -/
def NameShape (cs : List Char) : Prop :=
  ∃ first before after, cs = first :: (before ++ '-' :: after) ∧
    (0x61 ≤ first.toNat ∧ first.toNat ≤ 0x7A) ∧
    (∀ c ∈ before, IsNameCharacter c) ∧ ∀ c ∈ after, IsNameCharacter c

/-- `Capital c d` says `c` is a letter from `A` to `Z` and `d` is the same letter from `a` to
`z`. -/
def Capital (c d : Char) : Prop :=
  (0x41 ≤ c.toNat ∧ c.toNat ≤ 0x5A) ∧ d.toNat = c.toNat + 0x20

/-- `Recased cs ds` says `ds` is `cs` with some of its ASCII letters in the other case. -/
def Recased (cs ds : List Char) : Prop :=
  List.Forall₂ (fun c d => c = d ∨ Capital c d ∨ Capital d c) cs ds

variable {c d : Char} {cs ds : List Char} {name : String}

/-! ### Characters of names -/

/-- The lower-case letters of ASCII are the characters `0x61` to `0x7A`. -/
theorem is_lower_iff : c.isLower = true ↔ 0x61 ≤ c.toNat ∧ c.toNat ≤ 0x7A := by
  have hcode : c.isLower = (decide (97 ≤ c.val) && decide (c.val ≤ 122)) := rfl
  simp [hcode, UInt32.le_iff_toNat_le]

/-- The table of characters that names may have has exactly the characters of the grammar. -/
theorem is_name_char_iff : isNameChar c = true ↔ IsNameCharacter c := by
  have hdigit : c.isDigit = true ↔ 0x30 ≤ c.toNat ∧ c.toNat ≤ 0x39 := by
    simp [Char.isDigit, UInt32.le_iff_toNat_le]
  have hsingle : 0xB7 ≤ c.toNat ∧ c.toNat ≤ 0xB7 ↔ c.toNat = 0xB7 := by omega
  simp only [isNameChar, IsNameCharacter, Text.inRanges, nameRanges, List.any_cons, List.any_nil,
    Bool.or_eq_true, Bool.and_eq_true, decide_eq_true_eq, hdigit, is_lower_iff, hsingle]
  grind

/-! ### Lower case -/

/-- The lower case of a capital letter of ASCII stands 32 places after it, and other characters keep
theirs. -/
theorem to_nat_to_lower (c : Char) :
    c.toLower.toNat = if 0x41 ≤ c.toNat ∧ c.toNat ≤ 0x5A then c.toNat + 0x20 else c.toNat := by
  unfold Char.toLower
  split
  · rename_i h
    have hletter : 0x41 ≤ c.toNat ∧ c.toNat ≤ 0x5A := by
      simpa [UInt32.le_iff_toNat_le] using h
    have hval : c.val.toNat ≤ 0x5A := hletter.2
    rw [if_pos hletter]
    show (c.val + 0x20).toNat = c.val.toNat + 0x20
    rw [UInt32.toNat_add]
    exact Nat.mod_eq_of_lt (by show c.val.toNat + 0x20 < 2 ^ 32; omega)
  · rename_i h
    rw [if_neg (by simpa [UInt32.le_iff_toNat_le] using h)]

/-- There are no capitals among the characters of names. -/
theorem IsNameCharacter.lower_ascii (h : IsNameCharacter c) : Text.lowerAscii c = c := by
  have hcapital : ¬(0x41 ≤ c.toNat ∧ c.toNat ≤ 0x5A) := by
    rcases h with rfl | rfl | h | rfl | h
    · decide
    · decide
    · omega
    · decide
    · omega
  rw [Text.lowerAscii, ← Char.toNat_inj, to_nat_to_lower, if_neg hcapital]

/-- A capital letter and its small one have the same lower case. -/
theorem Capital.lower_ascii (h : Capital c d) : Text.lowerAscii c = Text.lowerAscii d := by
  obtain ⟨hletter, hd⟩ := h
  rw [Text.lowerAscii, Text.lowerAscii, ← Char.toNat_inj, to_nat_to_lower, to_nat_to_lower,
    if_pos hletter, if_neg (by omega), hd]

/-- Texts that differ in case agree in lower case. -/
theorem Recased.map_lower_ascii (h : Recased cs ds) :
    cs.map Text.lowerAscii = ds.map Text.lowerAscii := by
  induction h with
  | nil => rfl
  | @cons c d cs ds hhead _ ih =>
      have hlower : Text.lowerAscii c = Text.lowerAscii d := by
        rcases hhead with rfl | h | h
        · rfl
        · exact h.lower_ascii
        · exact h.lower_ascii.symm
      rw [List.map_cons, List.map_cons, hlower, ih]

/-! ### The shape of a name -/

/-- A name followed by characters that names may have is a name. -/
theorem NameShape.append {more : List Char} (h : NameShape cs)
    (hmore : ∀ c ∈ more, IsNameCharacter c) : NameShape (cs ++ more) := by
  obtain ⟨first, before, after, rfl, hfirst, hbefore, hafter⟩ := h
  refine ⟨first, before, after ++ more, by simp, hfirst, hbefore, fun c hc => ?_⟩
  rcases List.mem_append.1 hc with hc | hc
  · exact hafter c hc
  · exact hmore c hc

/-- The check reads a text from the first character to the last, while the shape may be found at
any hyphen. -/
theorem is_potential_name_iff :
    isPotentialName name = true ↔ NameShape (Text.lowercaseAscii name) := by
  rw [isPotentialName]
  split
  · rename_i hnil
    rw [hnil]
    constructor
    · intro h
      cases h
    · rintro ⟨first, before, after, hcons, _⟩
      cases hcons
  · rename_i first rest hcons
    rw [hcons, Bool.and_eq_true, Bool.and_eq_true, is_lower_iff, List.all_eq_true,
      List.contains_iff_mem]
    simp only [is_name_char_iff]
    constructor
    · rintro ⟨⟨hfirst, hrest⟩, hhyphen⟩
      obtain ⟨before, after, rfl⟩ := List.append_of_mem hhyphen
      exact ⟨first, before, after, rfl, hfirst, fun c hc => hrest c (by simp [hc]),
        fun c hc => hrest c (by simp [hc])⟩
    · rintro ⟨letter, before, after, hsplit, hfirst, hbefore, hafter⟩
      cases hsplit
      refine ⟨⟨hfirst, fun c hc => ?_⟩, by simp⟩
      rcases List.mem_append.1 hc with hc | hc
      · exact hbefore c hc
      · rcases List.mem_cons.1 hc with rfl | hc
        · exact Or.inl rfl
        · exact hafter c hc

/-- A name may be that of a custom element exactly if, with its ASCII letters in lower case, it has
the shape that the standard asks for. More characters of names may follow such a name, and its ASCII
letters may be written in either case. -/
theorem is_potential_name_of_shape :
    (∀ name, isPotentialName name = true ↔ NameShape (Text.lowercaseAscii name)) ∧
    (∀ name more : String, isPotentialName name = true →
      (∀ c ∈ more.toList, IsNameCharacter c) → isPotentialName (name ++ more) = true) ∧
    ∀ name other : String, Recased name.toList other.toList → isPotentialName name = true →
      isPotentialName other = true := by
  refine ⟨fun name => is_potential_name_iff, fun name more hname hmore => ?_,
    fun name other hrecased hname => ?_⟩
  · have hlower : more.toList.map Text.lowerAscii = more.toList.map id :=
      List.map_congr_left fun c hc => (hmore c hc).lower_ascii
    rw [is_potential_name_iff] at hname ⊢
    rw [Text.lowercaseAscii, String.toList_append, List.map_append, hlower, List.map_id]
    exact hname.append hmore
  · rw [is_potential_name_iff] at hname ⊢
    rw [Text.lowercaseAscii, ← hrecased.map_lower_ascii]
    exact hname

end MarkupSemantics.CustomElement
