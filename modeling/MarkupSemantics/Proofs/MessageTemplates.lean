import MarkupSemantics.Proofs.DecimalDigits
import MarkupSemantics.Proofs.Replacement
import MarkupSemantics.Text.Split

/-!
# Messages made from templates

A template is read as characters and places for arguments in exactly one way (`IsReading`). To fill
it verbatim is to put each argument at its places and nothing else (`FillsVerbatim`), while the
arguments are in fact filled in one after the other. `fill_next` is the step for one argument, and
`plain_fills_verbatim` is about all of them: it asks that at each turn a placeholder is only where
the template has it. `undisturbed_of_independent` says for which arguments this is so in every
template.
-/

namespace MarkupSemantics.Translation

/-! ### Placeholders -/

variable {i k n : Nat} {s rest : List Char} {c : Char}

/-- A placeholder is not empty. -/
theorem placeholder_ne_nil (k : Nat) : placeholder k ≠ [] :=
  List.cons_ne_nil _ _

/-- A placeholder is a number between braces. -/
theorem placeholder_eq (k : Nat) : placeholder k = '\x7b' :: (Decimal.digits k ++ ['\x7d']) :=
  rfl

/-- The text of a number has no characters but digits. -/
theorem not_mem_digits (hc : c.isDigit = false) (k : Nat) : c ∉ Decimal.digits k := by
  intro hmem
  have hdigit := (Decimal.is_natural_digits k).all_digits c hmem
  rw [hc] at hdigit
  cases hdigit

/-- The opening brace of a placeholder is its first character only. -/
theorem brace_not_mem_left {begun left : List Char} (h : placeholder k = begun ++ left)
    (hbegun : begun ≠ []) : '\x7b' ∉ left := by
  obtain ⟨c, begun, rfl⟩ := List.exists_cons_of_ne_nil hbegun
  have hleft : Decimal.digits k ++ ['\x7d'] = begun ++ left := (List.cons.inj h).2
  have hinner : '\x7b' ∉ Decimal.digits k ++ ['\x7d'] := by
    rw [List.mem_append, not_or]
    exact ⟨not_mem_digits (by decide) k, by decide⟩
  rw [hleft] at hinner
  exact fun hmem => hinner (List.mem_append_right _ hmem)

/-- A placeholder is no beginning of another one. -/
theorem eq_of_placeholder_begins (h : placeholder k <+: placeholder i ++ rest) : k = i := by
  obtain ⟨last, hlast⟩ := h
  have hchars : Decimal.digits k ++ '\x7d' :: last = Decimal.digits i ++ '\x7d' :: rest := by
    simpa [placeholder_eq] using hlast
  -- the digits end at the first closing brace
  have hbrace : ∀ n, '\x7d' ∉ Decimal.digits n := not_mem_digits (by decide)
  have hk : Text.splitFirst '\x7d' (Decimal.digits i ++ '\x7d' :: rest) =
      some (Decimal.digits k, last) :=
    Text.split_first_eq_some.2 ⟨hchars.symm, hbrace k⟩
  have hi : Text.splitFirst '\x7d' (Decimal.digits i ++ '\x7d' :: rest) =
      some (Decimal.digits i, rest) :=
    Text.split_first_eq_some.2 ⟨rfl, hbrace i⟩
  have hdigits : Decimal.digits k = Decimal.digits i := by
    rw [hi, Option.some.injEq, Prod.mk.injEq] at hk
    exact hk.1.symm
  rw [← Decimal.digits_value_digits k, hdigits, Decimal.digits_value_digits]

/-- No placeholder begins in a text without an opening brace. -/
theorem stays_clear_of_brace_not_mem (h : '\x7b' ∉ s) (k : Nat) (rest : List Char) :
    StaysClear (placeholder k) s rest := by
  intro t ht hne hbegins
  obtain ⟨c, t, rfl⟩ := List.exists_cons_of_ne_nil hne
  rw [placeholder_eq, List.cons_append, List.cons_prefix_cons] at hbegins
  exact h (ht.subset (hbegins.1 ▸ List.mem_cons_self))

/-- No other placeholder begins in a placeholder. -/
theorem stays_clear_placeholder (h : k ≠ i) (rest : List Char) :
    StaysClear (placeholder k) (placeholder i) rest := by
  rintro t ⟨begun, hbegun⟩ hne hbegins
  cases begun with
  | nil =>
      rw [List.nil_append] at hbegun
      rw [hbegun] at hbegins
      exact h (eq_of_placeholder_begins hbegins)
  | cons d begun =>
      have hclear := stays_clear_of_brace_not_mem
        (brace_not_mem_left hbegun.symm (List.cons_ne_nil d begun)) k rest
      exact hclear t List.suffix_rfl hne hbegins

/-- A text without an opening brace is kept before everything. -/
theorem replace_placeholder_append {new : List Char} (h : '\x7b' ∉ s) :
    replaceAll (placeholder k) new (s ++ rest) = s ++ replaceAll (placeholder k) new rest :=
  replace_all_append (stays_clear_of_brace_not_mem h k rest)

/-- A placeholder is replaced as a whole. -/
theorem replace_placeholder_self {new : List Char} :
    replaceAll (placeholder k) new (placeholder k) = new := by
  have hwhole : replaceAll (placeholder k) new (placeholder k ++ []) =
      new ++ replaceAll (placeholder k) new [] :=
    replace_all_occurrence (placeholder_ne_nil k)
  rwa [List.append_nil, replace_all_nil, List.append_nil] at hwhole

/-- A placeholder of another argument is left as it is. -/
theorem replace_placeholder_of_ne {new : List Char} (h : k ≠ i) :
    replaceAll (placeholder k) new (placeholder i) = placeholder i :=
  replace_all_of_stays_clear (stays_clear_placeholder h [])

/-! ### Templates -/

/-- A part of a template. -/
inductive Part where
  /-- A character that stands for itself. -/
  | char (c : Char)
  /-- A place for the argument with the number `i`. -/
  | slot (i : Nat)

/-- `part.filled arguments` is what becomes of `part` when `arguments` are filled in. A place for an
argument that is not there is left as it is written. -/
def Part.filled (arguments : List String) : Part → List Char
  | char c => [c]
  | slot i =>
    match arguments[i]? with
    | some argument => argument.toList
    | none => placeholder i

/-- `filled arguments parts` is the template of `parts` with `arguments` at their places. -/
def filled (arguments : List String) (parts : List Part) : List Char :=
  parts.flatMap (Part.filled arguments)

/-- `written parts` is the template of `parts`, as it is written. -/
def written (parts : List Part) : List Char :=
  filled [] parts

/-- `IsReading n parts` says `parts` are what a template is read as when there are `n` arguments:
its places are for these arguments, and no other character begins a placeholder for one of them. -/
inductive IsReading (n : Nat) : List Part → Prop where
  | nil : IsReading n []
  | char (c parts) :
      (∀ i < n, ¬ placeholder i <+: c :: written parts) →
      IsReading n parts → IsReading n (.char c :: parts)
  | slot (i parts) : i < n → IsReading n parts → IsReading n (.slot i :: parts)

/-- `FillsVerbatim template arguments message` says `message` is `template` with each placeholder
for one of `arguments` replaced by that argument, and with all else as it is. -/
def FillsVerbatim (template : String) (arguments : List String) (message : String) : Prop :=
  ∃ parts, IsReading arguments.length parts ∧ written parts = template.toList ∧
    message.toList = filled arguments parts

variable {parts others : List Part} {arguments done : List String}

/-- A template without parts is empty. -/
theorem written_nil : written [] = [] :=
  rfl

/-- A character is written as it is. -/
theorem written_char_cons : written (.char c :: parts) = c :: written parts :=
  rfl

/-- A place is written as the placeholder of its argument. -/
theorem written_slot_cons : written (.slot i :: parts) = placeholder i ++ written parts :=
  rfl

/-- The parts of a template are filled one after the other. -/
theorem filled_cons (part : Part) :
    filled arguments (part :: parts) = part.filled arguments ++ filled arguments parts :=
  rfl

/-- A character other than an opening brace begins no placeholder. -/
theorem IsReading.char_of_ne (hc : c ≠ '\x7b') (hparts : IsReading n parts) :
    IsReading n (.char c :: parts) := by
  refine .char c parts (fun i _ hbegins => ?_) hparts
  rw [placeholder_eq, List.cons_prefix_cons] at hbegins
  exact hc hbegins.1.symm

/-- Every text can be read as a template. -/
theorem exists_reading (n : Nat) (text : List Char) :
    ∃ parts, IsReading n parts ∧ written parts = text := by
  induction hlength : text.length using Nat.strong_induction_on generalizing text with
  | _ length ih =>
      by_cases hslot : ∃ i < n, placeholder i <+: text
      · obtain ⟨i, hi, rest, rfl⟩ := hslot
        have hshorter : rest.length < length := by
          rw [← hlength, List.length_append]
          have := List.length_pos_of_ne_nil (placeholder_ne_nil i)
          omega
        obtain ⟨parts, hparts, hrest⟩ := ih rest.length hshorter rest rfl
        exact ⟨.slot i :: parts, .slot i parts hi hparts, by rw [written_slot_cons, hrest]⟩
      · cases text with
        | nil => exact ⟨[], .nil, rfl⟩
        | cons c rest =>
            have hshorter : rest.length < length := by
              rw [← hlength, List.length_cons]
              omega
            obtain ⟨parts, hparts, hrest⟩ := ih rest.length hshorter rest rfl
            refine ⟨.char c :: parts, .char c parts (fun i hi hbegins => hslot ⟨i, hi, ?_⟩) hparts,
              by rw [written_char_cons, hrest]⟩
            rwa [hrest] at hbegins

/-- A template is read in one way. -/
theorem IsReading.unique (h : IsReading n parts) (hother : IsReading n others)
    (hwritten : written parts = written others) : parts = others := by
  induction h generalizing others with
  | nil =>
      cases hother with
      | nil => rfl
      | char => cases hwritten
      | slot => cases hwritten
  | char c parts hchar _ ih =>
      cases hother with
      | nil => cases hwritten
      | char d others _ hothers =>
          obtain ⟨rfl, hrest⟩ := List.cons.inj hwritten
          rw [ih hothers hrest]
      | slot i others hi hothers =>
          rw [written_char_cons, written_slot_cons] at hwritten
          exact absurd (hwritten ▸ List.prefix_append _ _) (hchar i hi)
  | slot i parts hi _ ih =>
      cases hother with
      | nil => cases hwritten
      | char c others hchar _ =>
          rw [written_char_cons, written_slot_cons] at hwritten
          exact absurd (hwritten ▸ List.prefix_append _ _) (hchar i hi)
      | slot j others _ hothers =>
          rw [written_slot_cons, written_slot_cons] at hwritten
          have heq : i = j := eq_of_placeholder_begins (hwritten ▸ List.prefix_append _ _)
          subst heq
          rw [ih hothers (List.append_cancel_left hwritten)]

/-! ### Filling in -/

variable {a : String} {more : List String}

/-- The place of an argument is filled with it. -/
theorem filled_slot_of_some (h : arguments[i]? = some a) :
    (Part.slot i).filled arguments = a.toList := by
  rw [Part.filled, h]

/-- The place of an argument that is not there keeps its placeholder. -/
theorem filled_slot_of_none (h : arguments[i]? = none) :
    (Part.slot i).filled arguments = placeholder i := by
  rw [Part.filled, h]

/-- One more argument changes no part but its places. -/
theorem filled_concat_of_ne {part : Part} (h : part ≠ .slot done.length) :
    part.filled (done ++ [a]) = part.filled done := by
  cases part with
  | char c => rfl
  | slot i =>
      have hne : i ≠ done.length := fun heq => h (congrArg Part.slot heq)
      have hsame : (done ++ [a])[i]? = done[i]? := by
        rcases hne.lt_or_gt with hlt | hgt
        · exact List.getElem?_append_left hlt
        · have hlength : (done ++ [a]).length ≤ i := by
            rw [List.length_append, List.length_singleton]
            omega
          rw [List.getElem?_eq_none hlength, List.getElem?_eq_none hgt.le]
      rw [Part.filled, Part.filled, hsame]

/-- `OnlyAtSlots k done parts` says that with `done` filled in, a placeholder for the argument `k`
begins in no part but a place for it. -/
def OnlyAtSlots (k : Nat) (done : List String) : List Part → Prop
  | [] => True
  | part :: parts =>
    (part ≠ .slot k → StaysClear (placeholder k) (part.filled done) (filled done parts)) ∧
      OnlyAtSlots k done parts

/-- One more argument is put at its places and nowhere else, if its placeholder is only there. -/
theorem fill_next (h : OnlyAtSlots done.length done parts) :
    replaceAll (placeholder done.length) a.toList (filled done parts) =
      filled (done ++ [a]) parts := by
  induction parts with
  | nil => exact replace_all_nil
  | cons part parts ih =>
      obtain ⟨hclear, hrest⟩ := h
      rw [filled_cons, filled_cons]
      by_cases hpart : part = .slot done.length
      · have hbefore : done[done.length]? = none := List.getElem?_eq_none le_rfl
        rw [hpart, filled_slot_of_none hbefore, filled_slot_of_some List.getElem?_concat_length,
          replace_all_occurrence (placeholder_ne_nil _), ih hrest]
      · rw [filled_concat_of_ne hpart, replace_all_append (hclear hpart), ih hrest]

/-- `Undisturbed template arguments` says that when it is the turn of an argument, its placeholder
is only where `template` has it. -/
def Undisturbed (template : String) (arguments : List String) : Prop :=
  ∃ parts, IsReading arguments.length parts ∧ written parts = template.toList ∧
    ∀ k < arguments.length, OnlyAtSlots k (arguments.take k) parts

/-- If this holds for all arguments that are left, they are all put at their places. -/
theorem fill_rest (done : List String)
    (h : ∀ k < (done ++ more).length, OnlyAtSlots k ((done ++ more).take k) parts) :
    fillFrom done.length (filled done parts) more = filled (done ++ more) parts := by
  induction more generalizing done with
  | nil => rw [fillFrom, List.append_nil]
  | cons a more ih =>
      have hlength : done.length < (done ++ a :: more).length := by
        rw [List.length_append, List.length_cons]
        omega
      have hnext : OnlyAtSlots done.length done parts := by
        have hturn := h done.length hlength
        rwa [List.take_left] at hturn
      have hone : (done ++ [a]).length = done.length + 1 := by simp
      have hsame : done ++ a :: more = (done ++ [a]) ++ more := by simp
      rw [fillFrom, fill_next hnext, ← hone, hsame]
      rw [hsame] at h
      exact ih (done ++ [a]) h

/-- Arguments are filled in verbatim where they do not disturb each other. -/
theorem plain_fills_verbatim {template : String} (h : Undisturbed template arguments) :
    FillsVerbatim template arguments (plain template arguments) := by
  obtain ⟨parts, hparts, hwritten, hturns⟩ := h
  have hfilled : fillFrom 0 (written parts) arguments = filled arguments parts :=
    fill_rest [] hturns
  exact ⟨parts, hparts, hwritten, by rw [plain, String.toList_ofList, ← hwritten, hfilled]⟩

/-- There is one way to fill arguments in verbatim. -/
theorem exists_unique_fills_verbatim (template : String) (arguments : List String) :
    ∃! message, FillsVerbatim template arguments message := by
  obtain ⟨parts, hparts, hwritten⟩ := exists_reading arguments.length template.toList
  refine ⟨String.ofList (filled arguments parts),
    ⟨parts, hparts, hwritten, String.toList_ofList⟩, ?_⟩
  rintro message ⟨others, hothers, hsame, hmessage⟩
  have heq : others = parts := hothers.unique hparts (hsame.trans hwritten.symm)
  rw [← String.ofList_toList (s := message), hmessage, heq]

/-! ### Arguments that complete no placeholder -/

/-- The rest of a placeholder stands in a template with some arguments filled in only if it stands
there as the template is written. -/
theorem prefix_of_prefix_filled {begun left : List Char} (hk : placeholder k = begun ++ left)
    (hbegun : begun ≠ []) (hdone : ∀ b ∈ done, ¬ Completes (placeholder k) b.toList)
    (hleft : left <+: filled done parts) : left <+: written parts := by
  induction parts generalizing begun left with
  | nil => exact hleft
  | cons part parts ih =>
      cases left with
      | nil => exact List.nil_prefix
      | cons d left =>
          rw [filled_cons] at hleft
          cases part with
          | char c =>
              rw [Part.filled, List.singleton_append, List.cons_prefix_cons] at hleft
              obtain ⟨rfl, hleft⟩ := hleft
              have hmore : placeholder k = (begun ++ [d]) ++ left := by simp [hk]
              rw [written_char_cons, List.cons_prefix_cons]
              exact ⟨rfl, ih hmore (by simp) hleft⟩
          | slot i =>
              cases hargument : done[i]? with
              | some b =>
                  rw [filled_slot_of_some hargument] at hleft
                  exact absurd hleft (not_prefix_of_not_completes hk hbegun
                    (List.cons_ne_nil d left) (hdone b (List.mem_of_getElem? hargument)))
              | none =>
                  rw [filled_slot_of_none hargument, placeholder_eq, List.cons_append,
                    List.cons_prefix_cons] at hleft
                  have hbrace := brace_not_mem_left hk hbegun
                  rw [hleft.1] at hbrace
                  exact absurd List.mem_cons_self hbrace

/-- A placeholder that no argument completes is only where the template has it. -/
theorem only_at_slots_of_not_completes (hparts : IsReading n parts) (hk : k < n)
    (hdone : ∀ b ∈ done, ¬ Completes (placeholder k) b.toList) : OnlyAtSlots k done parts := by
  induction hparts with
  | nil => trivial
  | char c parts hchar _ ih =>
      refine ⟨fun _ => stays_clear_singleton fun hbegins => ?_, ih⟩
      rw [placeholder_eq, List.cons_prefix_cons] at hbegins
      obtain ⟨rfl, hleft⟩ := hbegins
      have hbegun : placeholder k = ['\x7b'] ++ (Decimal.digits k ++ ['\x7d']) := rfl
      have hwritten := prefix_of_prefix_filled hbegun (by simp) hdone hleft
      exact hchar k hk (List.cons_prefix_cons.2 ⟨rfl, hwritten⟩)
  | slot i parts _ _ ih =>
      refine ⟨fun hne => ?_, ih⟩
      cases hargument : done[i]? with
      | some b =>
          rw [filled_slot_of_some hargument]
          exact stays_clear_of_not_completes (placeholder_ne_nil k)
            (hdone b (List.mem_of_getElem? hargument)) _
      | none =>
          rw [filled_slot_of_none hargument]
          exact stays_clear_placeholder (fun heq => hne (congrArg Part.slot heq.symm)) _

/-- `Independent arguments` says no argument completes the placeholder of a later one. -/
def Independent (arguments : List String) : Prop :=
  ∀ i j, i < j → j < arguments.length → ∀ a, arguments[i]? = some a →
    ¬ Completes (placeholder j) a.toList

/-- Independent arguments do not disturb each other in any template. -/
theorem undisturbed_of_independent (template : String) (h : Independent arguments) :
    Undisturbed template arguments := by
  obtain ⟨parts, hparts, hwritten⟩ := exists_reading arguments.length template.toList
  refine ⟨parts, hparts, hwritten, fun k hk => ?_⟩
  refine only_at_slots_of_not_completes hparts hk fun b hb => ?_
  obtain ⟨i, hi, rfl⟩ := List.mem_take_iff_getElem.1 hb
  obtain ⟨hbefore, hthere⟩ := lt_min_iff.1 hi
  exact h i k hbefore hk arguments[i] (List.getElem?_eq_getElem hthere)

/-- A character of a piece of a text, by its place in the whole. -/
theorem mem_of_getElem?_piece {before after : List Char} {place : Nat}
    (h : (before ++ s ++ after)[place]? = some c) (hbefore : before.length ≤ place)
    (hafter : place < before.length + s.length) : c ∈ s := by
  rw [List.getElem?_append_left (by rw [List.length_append]; exact hafter),
    List.getElem?_append_right hbefore] at h
  exact List.mem_of_getElem? h

/-- A text without braces that is not only digits completes no placeholder. -/
theorem not_completes_placeholder (hopen : '\x7b' ∉ s) (hclose : '\x7d' ∉ s) (hc : c ∈ s)
    (hdigit : c.isDigit = false) (k : Nat) : ¬ Completes (placeholder k) s := by
  rintro ⟨before, after, first, last, hwhole, hbegins, hends⟩
  obtain ⟨i, hi, rfl⟩ := List.getElem_of_mem hc
  have hlength : (placeholder k).length = (Decimal.digits k).length + 2 := by
    simp [placeholder_eq]
  rw [hlength] at hends
  -- the character lies before the opening brace, after the closing one, or between them
  rcases lt_or_ge (before.length + i) first.length with hearly | hnotearly
  · have hbrace : (first ++ placeholder k ++ last)[first.length]? = some '\x7b' := by
      simp [placeholder_eq]
    rw [← hwhole] at hbrace
    exact hopen (mem_of_getElem?_piece hbrace (by omega) hbegins)
  · rcases lt_or_ge (before.length + i) (first.length + (placeholder k).length) with hinside | hlate
    · have hchar : (before ++ s ++ after)[before.length + i]? = some s[i] := by
        rw [List.append_assoc, List.getElem?_append_right (Nat.le_add_right _ _),
          Nat.add_sub_cancel_left, List.getElem?_append_left hi, List.getElem?_eq_getElem hi]
      rw [hwhole] at hchar
      have hmem := mem_of_getElem?_piece hchar hnotearly hinside
      rw [placeholder_eq, List.mem_cons, List.mem_append, List.mem_singleton] at hmem
      rcases hmem with hbrace | hmem | hbrace
      · exact hopen (hbrace ▸ hc)
      · exact not_mem_digits hdigit k hmem
      · exact hclose (hbrace ▸ hc)
    · have hbrace :
          (first ++ placeholder k ++ last)[first.length + ((Decimal.digits k).length + 1)]? =
            some '\x7d' := by
        simp [placeholder_eq]
      rw [← hwhole] at hbrace
      exact hclose (mem_of_getElem?_piece hbrace (by omega) (by omega))

/-- `IsWord s` says `s` has no braces and is not only digits. -/
def IsWord (s : List Char) : Prop :=
  '\x7b' ∉ s ∧ '\x7d' ∉ s ∧ ∃ c ∈ s, c.isDigit = false

/-- Words are independent. -/
theorem independent_of_words (h : ∀ a ∈ arguments, IsWord a.toList) : Independent arguments := by
  intro i j _ _ a ha
  obtain ⟨hopen, hclose, c, hc, hdigit⟩ := h a (List.mem_of_getElem? ha)
  exact not_completes_placeholder hopen hclose hc hdigit j

end MarkupSemantics.Translation
