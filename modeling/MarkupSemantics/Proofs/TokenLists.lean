import MarkupSemantics.Proofs.WhiteSpace
import MarkupSemantics.Rules.PropertyValue

/-!
# Lists of tokens

The value of a property may be a list of tokens with white space between them. `Cut` says which
pieces a text is made of, and `cut_pieces` and `Cut.pieces_eq` that they are the ones that the text
is cut into. The pieces with something in them are the runs without white space
(`Cut.mem_iff_is_run`), and a piece with nothing in it comes from white space at an edge of the text
(`Cut.nil_mem_iff`). The main statement is `accepts_runs_of_token_list`.
-/

namespace MarkupSemantics

namespace Text

/-- `IsWord word` says `word` has something in it and no white space. -/
def IsWord (word : List Char) : Prop :=
  word ≠ [] ∧ ∀ c ∈ word, isBlank c = false

/-- `IsGap gap` says `gap` has something in it, and nothing but white space. -/
def IsGap (gap : List Char) : Prop :=
  gap ≠ [] ∧ ∀ c ∈ gap, isBlank c = true

/-- `IsRun cs word` says `word` is a part of `cs` without white space that goes as far as it can: on
either side of it stands white space or nothing. -/
def IsRun (cs word : List Char) : Prop :=
  ∃ before after, cs = before ++ (word ++ after) ∧ IsWord word ∧
    (∀ c ∈ before.getLast?, isBlank c = true) ∧ EndsWord after

/-- `HasBlankEdge cs` says `cs` is empty, or begins or ends with white space. -/
def HasBlankEdge (cs : List Char) : Prop :=
  cs = [] ∨ cs.head?.any isBlank = true ∨ cs.getLast?.any isBlank = true

/-- `Cut pieces cs` says `cs` is made of `pieces` without white space, with a gap after each but the
last one. The text after a gap does not go on with white space. -/
inductive Cut : List (List Char) → List Char → Prop where
  | last (piece) : (∀ c ∈ piece, isBlank c = false) → Cut [piece] piece
  | cons (piece gap pieces rest) :
      (∀ c ∈ piece, isBlank c = false) → IsGap gap → (∀ c ∈ rest.head?, isBlank c = false) →
      Cut pieces rest → Cut (piece :: pieces) (piece ++ (gap ++ rest))

variable {cs piece gap rest word : List Char} {ps : List (List Char)}

/-- A word ends where a gap begins. -/
theorem IsGap.ends_word (hgap : IsGap gap) (rest : List Char) : EndsWord (gap ++ rest) := by
  intro c hc
  obtain ⟨b, gap, rfl⟩ := List.exists_cons_of_ne_nil hgap.1
  cases hc
  exact hgap.2 _ List.mem_cons_self

/-! ### The computed pieces -/

/-- What has no white space is solid throughout. -/
theorem is_solid_of_mem (hpiece : ∀ c ∈ piece, isBlank c = false) :
    ∀ c ∈ piece, isSolid c = true := by
  intro c hc
  rw [isSolid, hpiece c hc]
  rfl

/-- A word is what stands before the first white space. -/
theorem take_while_word (hpiece : ∀ c ∈ piece, isBlank c = false) (hrest : EndsWord rest) :
    (piece ++ rest).takeWhile isSolid = piece := by
  rw [List.takeWhile_append_of_pos (is_solid_of_mem hpiece), take_while_is_solid hrest,
    List.append_nil]

/-- A word at the head of a text is passed over as a whole. -/
theorem drop_while_word (hpiece : ∀ c ∈ piece, isBlank c = false) (hrest : EndsWord rest) :
    (piece ++ rest).dropWhile isSolid = rest := by
  rw [List.dropWhile_append_of_pos (is_solid_of_mem hpiece)]
  cases rest with
  | nil => rfl
  | cons c rest => exact List.dropWhile_cons_of_neg (by simp [isSolid, hrest c rfl])

/-- A text without white space is one piece. -/
theorem pieces_of_solid (h : ∀ c ∈ cs, isBlank c = false) : pieces cs = [cs] := by
  have hdrop : cs.dropWhile isSolid = [] := List.dropWhile_eq_nil_iff.2 (is_solid_of_mem h)
  unfold pieces
  split
  · rfl
  · rename_i hcons
    rw [hdrop] at hcons
    cases hcons

/-- A text is cut at its first gap. -/
theorem pieces_append (hpiece : ∀ c ∈ piece, isBlank c = false) (hgap : IsGap gap)
    (hrest : ∀ c ∈ rest.head?, isBlank c = false) :
    pieces (piece ++ (gap ++ rest)) = piece :: pieces rest := by
  have hends : EndsWord (gap ++ rest) := hgap.ends_word rest
  obtain ⟨b, gap, rfl⟩ := List.exists_cons_of_ne_nil hgap.1
  have hskip : (gap ++ rest).dropWhile isBlank = rest := by
    have hblank : ∀ c ∈ gap, isBlank c = true := fun c hc => hgap.2 c (List.mem_cons_of_mem _ hc)
    rw [← trimStart, trim_start_append hblank, trim_start_of_tight hrest]
  rw [pieces]
  split
  · rename_i hnil
    rw [drop_while_word hpiece hends] at hnil
    cases hnil
  · rename_i c more hcons
    rw [drop_while_word hpiece hends] at hcons
    cases hcons
    show (piece ++ (b :: gap ++ rest)).takeWhile isSolid ::
      pieces ((gap ++ rest).dropWhile isBlank) = piece :: pieces rest
    rw [take_while_word hpiece hends, hskip]

/-- Every text is made of the pieces that it is cut into. -/
theorem cut_pieces (cs : List Char) : Cut (pieces cs) cs := by
  have hsplit := List.takeWhile_append_dropWhile (p := isSolid) (l := cs)
  have hpiece : ∀ c ∈ cs.takeWhile isSolid, isBlank c = false := by
    intro c hc
    simpa [isSolid] using List.mem_takeWhile_imp hc
  rw [pieces]
  split
  · rename_i hnil
    rw [hnil, List.append_nil] at hsplit
    exact .last cs (hsplit ▸ hpiece)
  · rename_i b more hcons
    have hgap : IsGap (b :: more.takeWhile isBlank) := by
      refine ⟨List.cons_ne_nil _ _, fun c hc => ?_⟩
      rcases List.mem_cons.1 hc with rfl | hc
      · exact ends_word_drop_while cs c (by rw [hcons]; rfl)
      · exact List.mem_takeWhile_imp hc
    have hrest : ∀ c ∈ (more.dropWhile isBlank).head?, isBlank c = false := by
      intro c hc
      have hstop := List.head?_dropWhile_not isBlank more
      rw [hc] at hstop
      simpa using hstop
    have hwhole : cs.takeWhile isSolid ++
        (b :: more.takeWhile isBlank ++ more.dropWhile isBlank) = cs := by
      rw [List.cons_append, List.takeWhile_append_dropWhile, ← hcons, hsplit]
    have hlt : (more.dropWhile isBlank).length < cs.length := by
      have hdrop := length_drop_while_le isSolid cs
      have hmore := length_drop_while_le isBlank more
      rw [hcons, List.length_cons] at hdrop
      omega
    have hcut := Cut.cons _ _ _ _ hpiece hgap hrest (cut_pieces (more.dropWhile isBlank))
    rw [hwhole] at hcut
    exact hcut
termination_by cs.length

/-- A text is made of no other pieces. -/
theorem Cut.pieces_eq (h : Cut ps cs) : pieces cs = ps := by
  induction h with
  | last piece hpiece => exact pieces_of_solid hpiece
  | cons piece gap pieces rest hpiece hgap hrest _ ih =>
      rw [pieces_append hpiece hgap hrest, ih]

/-! ### Empty pieces -/

namespace Cut

/-- The pieces of a text have no white space. -/
theorem is_solid (h : Cut ps cs) : ∀ piece ∈ ps, ∀ c ∈ piece, isBlank c = false := by
  induction h with
  | last piece hpiece =>
      intro p hp
      rw [List.mem_singleton.1 hp]
      exact hpiece
  | cons piece gap pieces rest hpiece _ _ _ ih =>
      intro p hp
      rcases List.mem_cons.1 hp with rfl | hp
      · exact hpiece
      · exact ih p hp

/-- A piece with nothing in it comes from white space at an edge, or from an empty text. -/
theorem nil_mem_iff (h : Cut ps cs) : [] ∈ ps ↔ HasBlankEdge cs := by
  induction h with
  | last piece hpiece =>
      have hfirst : piece.head?.any isBlank = false := by
        cases hhead : piece.head? with
        | none => rfl
        | some c => exact hpiece c (List.mem_of_head? hhead)
      have hlast : piece.getLast?.any isBlank = false := by
        cases hlast : piece.getLast? with
        | none => rfl
        | some c => exact hpiece c (List.mem_of_getLast? hlast)
      rw [List.mem_singleton, HasBlankEdge, hfirst, hlast]
      simp [eq_comm]
  | cons piece gap pieces rest hpiece hgap hrest _ ih =>
      have hfirst : (piece ++ (gap ++ rest)).head?.any isBlank = true ↔ piece = [] := by
        cases piece with
        | nil =>
            obtain ⟨b, gap, rfl⟩ := List.exists_cons_of_ne_nil hgap.1
            simp [hgap.2 b List.mem_cons_self]
        | cons c piece => simp [hpiece c List.mem_cons_self]
      have hlast : (piece ++ (gap ++ rest)).getLast?.any isBlank = true ↔ HasBlankEdge rest := by
        cases rest with
        | nil =>
            have hend : isBlank (gap.getLast hgap.1) = true := hgap.2 _ (List.getLast_mem hgap.1)
            simp [HasBlankEdge, List.getLast?_append, List.getLast?_eq_some_getLast hgap.1, hend]
        | cons c rest =>
            have hc : isBlank c = false := hrest c rfl
            simp [HasBlankEdge, List.getLast?_append, List.getLast?_cons, hc]
      show [] ∈ piece :: pieces ↔ _ ∨ _ ∨ _
      rw [List.mem_cons, ih, hfirst, hlast]
      simp [hgap.1, eq_comm]

/-- Where a text does not begin with white space, only its last piece may be empty. -/
theorem ne_nil_of_mem_drop_last (h : Cut ps cs) (hcs : ∀ c ∈ cs.head?, isBlank c = false) :
    ∀ piece ∈ ps.dropLast, piece ≠ [] := by
  induction h with
  | last piece hpiece => simp
  | cons piece gap pieces rest _ hgap hrest hcut ih =>
      have hpieces : pieces ≠ [] := by
        cases hcut <;> simp
      have hpiece : piece ≠ [] := by
        intro hnil
        subst hnil
        obtain ⟨b, gap, rfl⟩ := List.exists_cons_of_ne_nil hgap.1
        have hsolid := hcs b rfl
        rw [hgap.2 b List.mem_cons_self] at hsolid
        cases hsolid
      intro p hp
      rw [List.dropLast_cons_of_ne_nil hpieces] at hp
      rcases List.mem_cons.1 hp with rfl | hp
      · exact hpiece
      · exact ih hrest p hp

/-- Between the first and the last piece, every piece has something in it. -/
theorem ne_nil_of_mem (h : Cut ps cs) : ∀ piece ∈ ps.tail.dropLast, piece ≠ [] := by
  cases h with
  | last piece hpiece => simp
  | cons piece gap pieces rest _ _ hrest hcut => exact hcut.ne_nil_of_mem_drop_last hrest

end Cut

/-! ### Runs without white space -/

/-- Before a run that stands in a text without white space there is nothing. -/
theorem eq_nil_of_blank_last (hpiece : ∀ c ∈ piece, isBlank c = false)
    (hlast : ∀ c ∈ piece.getLast?, isBlank c = true) : piece = [] := by
  cases h : piece.getLast? with
  | none => exact List.getLast?_eq_none_iff.1 h
  | some c =>
      have hsolid := hpiece c (List.mem_of_getLast? h)
      rw [hlast c h] at hsolid
      cases hsolid

/-- After a run that stands in a text without white space there is nothing. -/
theorem eq_nil_of_ends_word (hpiece : ∀ c ∈ piece, isBlank c = false) (hends : EndsWord piece) :
    piece = [] := by
  cases h : piece.head? with
  | none => exact List.head?_eq_none_iff.1 h
  | some c =>
      have hsolid := hpiece c (List.mem_of_head? h)
      rw [hends c h] at hsolid
      cases hsolid

/-- A text without white space is its only run. -/
theorem is_run_of_solid_iff (hpiece : ∀ c ∈ piece, isBlank c = false) (hne : word ≠ []) :
    IsRun piece word ↔ word = piece := by
  constructor
  · intro h
    obtain ⟨before, after, rfl, _, hbefore, hafter⟩ := h
    have hfirst : before = [] := eq_nil_of_blank_last (fun c hc => hpiece c (by simp [hc])) hbefore
    have hlast : after = [] := eq_nil_of_ends_word (fun c hc => hpiece c (by simp [hc])) hafter
    rw [hfirst, hlast, List.nil_append, List.append_nil]
  · intro h
    subst h
    have hnothing : EndsWord [] := by simp [EndsWord]
    exact ⟨[], [], by simp, ⟨hne, hpiece⟩, by simp, hnothing⟩

/-- What stands after a gap begins at the start of the gap or of what follows it, if it does not
begin with white space. -/
theorem eq_nil_of_word_append {after : List Char} (hword : IsWord word)
    (hgap : ∀ c ∈ gap, isBlank c = true) (h : word ++ after = gap ++ rest) : gap = [] := by
  cases gap with
  | nil => rfl
  | cons b gap =>
      obtain ⟨c, word, rfl⟩ := List.exists_cons_of_ne_nil hword.1
      have hsame : c = b := (List.cons.inj h).1
      have hsolid := hword.2 c List.mem_cons_self
      rw [hsame, hgap b List.mem_cons_self] at hsolid
      cases hsolid

/-- The runs of a text with a gap are what stands before the gap, and the runs of the rest. -/
theorem is_run_append_iff (hpiece : ∀ c ∈ piece, isBlank c = false) (hgap : IsGap gap)
    (hne : word ≠ []) :
    IsRun (piece ++ (gap ++ rest)) word ↔ word = piece ∨ IsRun rest word := by
  have hends : EndsWord (gap ++ rest) := hgap.ends_word rest
  constructor
  · intro h
    obtain ⟨before, after, heq, hword, hbefore, hafter⟩ := h
    rcases List.append_eq_append_iff.1 heq with ⟨middle, rfl, hmiddle⟩ | ⟨middle, rfl, hmiddle⟩
    · -- the run begins after the first piece, so it begins after the gap
      refine Or.inr ?_
      rcases List.append_eq_append_iff.1 hmiddle with ⟨inner, rfl, rfl⟩ | ⟨inner, rfl, hinner⟩
      · refine ⟨inner, after, rfl, hword, fun c hc => hbefore c ?_, hafter⟩
        simp [List.getLast?_append, Option.mem_def.1 hc]
      · have hblank : ∀ c ∈ inner, isBlank c = true := fun c hc =>
          hgap.2 c (List.mem_append_right _ hc)
        have hnothing : inner = [] := eq_nil_of_word_append hword hblank hinner
        subst hnothing
        exact ⟨[], after, hinner.symm, hword, by simp, hafter⟩
    · -- the run begins in the first piece, where no white space is
      refine Or.inl ?_
      have hnothing : before = [] :=
        eq_nil_of_blank_last (fun c hc => hpiece c (List.mem_append_left _ hc)) hbefore
      subst hnothing
      rw [List.nil_append] at hpiece
      have hfirst := take_while_word hword.2 hafter
      rw [hmiddle, take_while_word hpiece hends] at hfirst
      exact hfirst.symm
  · intro h
    rcases h with rfl | ⟨before, after, rfl, hword, hbefore, hafter⟩
    · exact ⟨[], gap ++ rest, rfl, ⟨hne, hpiece⟩, by simp, hends⟩
    · refine ⟨piece ++ (gap ++ before), after, by simp, hword, fun c hc => ?_, hafter⟩
      rw [List.getLast?_append, List.getLast?_append] at hc
      cases hlast : before.getLast? with
      | none =>
          rw [hlast, List.getLast?_eq_some_getLast hgap.1] at hc
          cases hc
          exact hgap.2 _ (List.getLast_mem hgap.1)
      | some b =>
          rw [hlast] at hc
          cases hc
          exact hbefore _ hlast

/-- The pieces with something in them are the runs without white space. -/
theorem Cut.mem_iff_is_run (h : Cut ps cs) (hne : word ≠ []) : word ∈ ps ↔ IsRun cs word := by
  induction h with
  | last piece hpiece => rw [List.mem_singleton, is_run_of_solid_iff hpiece hne]
  | cons piece gap pieces rest hpiece hgap _ _ ih =>
      rw [List.mem_cons, ih, is_run_append_iff hpiece hgap hne]

/-! ### Words with gaps between them -/

/-- `spacedWords first more` is the text of the word `first` and of the words of `more`, each after
its gap. -/
def spacedWords (first : List Char) : List (List Char × List Char) → List Char
  | [] => first
  | (gap, word) :: more => first ++ (gap ++ spacedWords word more)

/-- A text of words does not begin with white space. -/
theorem is_blank_head_spaced_words {first : List Char} (hfirst : IsWord first)
    (more : List (List Char × List Char)) :
    ∀ c ∈ (spacedWords first more).head?, isBlank c = false := by
  intro c hc
  obtain ⟨a, first, rfl⟩ := List.exists_cons_of_ne_nil hfirst.1
  cases more with
  | nil => exact hfirst.2 c (List.mem_of_head? hc)
  | cons entry more =>
      cases hc
      exact hfirst.2 _ List.mem_cons_self

/-- A text of words is made of the words. -/
theorem cut_spaced_words {first : List Char} {more : List (List Char × List Char)}
    (hfirst : IsWord first) (hmore : ∀ entry ∈ more, IsGap entry.1 ∧ IsWord entry.2) :
    Cut (first :: more.map (·.2)) (spacedWords first more) := by
  induction more generalizing first with
  | nil => exact .last first hfirst.2
  | cons entry more ih =>
      obtain ⟨gap, word⟩ := entry
      obtain ⟨hgap, hword⟩ := hmore (gap, word) List.mem_cons_self
      have hrest := ih hword fun entry hentry => hmore entry (List.mem_cons_of_mem _ hentry)
      exact .cons first gap _ _ hfirst.2 hgap (is_blank_head_spaced_words hword more) hrest

end Text

namespace Aria.ValueType

open Text

variable {tokens : List String} {value : String}

/-- A list of tokens is accepted if every piece of it is listed; no piece has anything to trim. -/
theorem accepts_token_list_iff :
    tokenList.accepts tokens value = true ↔
      ∀ piece ∈ pieces value.toList, String.ofList piece ∈ tokens := by
  have htrim : ∀ piece ∈ pieces value.toList, trim piece = piece := fun piece hpiece =>
    trim_of_tight (.of_solid ((cut_pieces value.toList).is_solid piece hpiece))
  show ((pieces value.toList).all fun piece =>
    tokens.contains (String.ofList (trim piece))) = true ↔ _
  rw [List.all_eq_true]
  refine forall₂_congr fun piece hpiece => ?_
  rw [htrim piece hpiece, List.contains_iff_mem]

/-- A list of tokens is accepted exactly if each of its runs without white space is a listed token
and, where the value is empty or has white space at an edge, the empty token is listed. The pieces
that it is cut into have no white space, and only the first and the last may be empty; a text of
words with gaps between them is cut into the words. A value without white space is accepted as a
list exactly if it is accepted as one token. -/
theorem accepts_runs_of_token_list :
    (∀ (tokens : List String) (value : String), tokenList.accepts tokens value = true ↔
      (∀ word, IsRun value.toList word → String.ofList word ∈ tokens) ∧
        (HasBlankEdge value.toList → "" ∈ tokens)) ∧
    (∀ cs, (∀ piece ∈ pieces cs, ∀ c ∈ piece, isBlank c = false) ∧
      ∀ piece ∈ (pieces cs).tail.dropLast, piece ≠ []) ∧
    (∀ first more, IsWord first → (∀ entry ∈ more, IsGap entry.1 ∧ IsWord entry.2) →
      pieces (spacedWords first more) = first :: more.map (·.2)) ∧
    ∀ (tokens : List String) (value : String), (∀ c ∈ value.toList, isBlank c = false) →
      tokenList.accepts tokens value = token.accepts tokens value := by
  refine ⟨fun tokens value => ?_, fun cs => ?_, fun first more hfirst hmore => ?_,
    fun tokens value hsolid => ?_⟩
  · have hcut := cut_pieces value.toList
    rw [accepts_token_list_iff]
    constructor
    · intro h
      refine ⟨fun word hword => ?_, fun hedge => h [] (hcut.nil_mem_iff.2 hedge)⟩
      obtain ⟨_, _, _, hne, _⟩ := id hword
      exact h word ((hcut.mem_iff_is_run hne.1).2 hword)
    · intro h piece hpiece
      by_cases hne : piece = []
      · subst hne
        exact h.2 (hcut.nil_mem_iff.1 hpiece)
      · exact h.1 piece ((hcut.mem_iff_is_run hne).1 hpiece)
  · exact ⟨(cut_pieces cs).is_solid, (cut_pieces cs).ne_nil_of_mem⟩
  · exact (cut_spaced_words hfirst hmore).pieces_eq
  · rw [Bool.eq_iff_iff, accepts_token_list_iff, pieces_of_solid hsolid, List.forall_mem_singleton,
      String.ofList_toList]
    exact List.contains_iff_mem.symm

end Aria.ValueType

end MarkupSemantics
