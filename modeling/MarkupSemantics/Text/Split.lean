/-!
# Cutting text at a character

`splitFirst` cuts at the first occurrence of a separator and `splitLast` at the last one; the
separator itself is dropped. `split_first_eq_some` and `split_last_eq_some` say what the two parts
are.
-/

namespace MarkupSemantics.Text

/-- `splitFirst sep cs` is the text before and after the first `sep` in `cs`. -/
def splitFirst (sep : Char) : List Char → Option (List Char × List Char)
  | [] => none
  | c :: cs => if c = sep then some ([], cs) else (splitFirst sep cs).map fun (a, b) => (c :: a, b)

/-- `splitLast sep cs` is the text before and after the last `sep` in `cs`. -/
def splitLast (sep : Char) (cs : List Char) : Option (List Char × List Char) :=
  (splitFirst sep cs.reverse).map fun (after, before) => (before.reverse, after.reverse)

/-- There is no cut exactly where there is no separator. -/
theorem split_first_eq_none {sep : Char} {cs : List Char} :
    splitFirst sep cs = none ↔ sep ∉ cs := by
  induction cs with
  | nil => simp [splitFirst]
  | cons c cs ih =>
    by_cases hc : c = sep
    · simp [splitFirst, hc]
    · simp [splitFirst, hc, ih, Ne.symm hc]

/-- A cut gives the two sides of the first separator. -/
theorem split_first_eq_some {sep : Char} {cs before after : List Char} :
    splitFirst sep cs = some (before, after) ↔ cs = before ++ sep :: after ∧ sep ∉ before := by
  induction cs generalizing before with
  | nil => simp [splitFirst]
  | cons c cs ih =>
    by_cases hc : c = sep
    · subst hc
      cases before with
      | nil => simp [splitFirst, eq_comm]
      | cons b bs =>
        simp only [splitFirst, if_true, Option.some.injEq, Prod.mk.injEq, List.cons_append,
          List.cons.injEq, List.mem_cons, not_or]
        constructor
        · rintro ⟨h, _⟩
          exact absurd h (by simp)
        · rintro ⟨⟨rfl, _⟩, hne, _⟩
          exact absurd rfl hne
    · cases before with
      | nil =>
        simp only [splitFirst, hc, if_false, Option.map_eq_some_iff]
        simp [hc]
      | cons b bs =>
        simp only [splitFirst, hc, if_false, Option.map_eq_some_iff, Prod.exists, Prod.mk.injEq,
          List.cons.injEq, List.cons_append, List.mem_cons, not_or]
        constructor
        · rintro ⟨a, b', h, ⟨rfl, rfl⟩, rfl⟩
          obtain ⟨rfl, hmem⟩ := ih.1 h
          exact ⟨⟨rfl, rfl⟩, fun h => hc h.symm, hmem⟩
        · rintro ⟨⟨rfl, rfl⟩, _, hmem⟩
          exact ⟨bs, after, ih.2 ⟨rfl, hmem⟩, ⟨rfl, rfl⟩, rfl⟩

/-- A cut at the last separator gives the two sides of it. -/
theorem split_last_eq_some {sep : Char} {cs before after : List Char} :
    splitLast sep cs = some (before, after) ↔ cs = before ++ sep :: after ∧ sep ∉ after := by
  have hreverse : cs.reverse = after.reverse ++ sep :: before.reverse ↔
      cs = before ++ sep :: after := by
    rw [← List.reverse_inj]
    simp
  have hfirst : splitFirst sep cs.reverse = some (after.reverse, before.reverse) ↔
      cs.reverse = after.reverse ++ sep :: before.reverse ∧ sep ∉ after.reverse :=
    split_first_eq_some
  rw [hreverse, List.mem_reverse] at hfirst
  rw [splitLast, Option.map_eq_some_iff, ← hfirst]
  constructor
  · rintro ⟨⟨a, b⟩, h, hparts⟩
    obtain ⟨rfl, rfl⟩ := Prod.mk.inj hparts
    rwa [List.reverse_reverse, List.reverse_reverse]
  · intro h
    exact ⟨_, h, by simp⟩

/-- What follows a cut is shorter than the whole. -/
theorem length_split_first {sep : Char} {cs before after : List Char}
    (h : splitFirst sep cs = some (before, after)) :
    before.length < cs.length ∧ after.length < cs.length := by
  obtain ⟨rfl, _⟩ := split_first_eq_some.1 h
  rw [List.length_append, List.length_cons]
  constructor
  · omega
  · omega

end MarkupSemantics.Text
