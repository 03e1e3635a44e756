import Mathlib.Data.Finset.Card
import MarkupSemantics.Proofs.AttributeResolution
import MarkupSemantics.Proofs.Conformity

/-!
# Attributes that a list names again

The list of an element may name an attribute more than once. `repeatedEntries` lists the entries
that come after one with their name. The check of attribute lists has one line for each of them
(`repeats_eq`), and so many that the names are counted (`length_repeated_entries_add`). A list
without them is one in which no attribute from a group comes after one with its name
(`Resolves.nodup_iff`). The main statement is `resolution_of_elements`.
-/

namespace MarkupSemantics

open AttributeResolution

/-- `repeatedEntries attributes` lists the entries whose name an earlier entry has, in their
order. -/
def repeatedEntries (attributes : List AttributeDef) : List AttributeDef :=
  (attributes.zipIdx.filter fun entry =>
    entry.1.name ∈ (attributes.take entry.2).map (·.name)).map (·.1)

variable {attributes : List AttributeDef} {items : List SourceItem} {r : Repository}
  {e : ElementDef}

/-- One more entry is repeated if its name is there already. -/
theorem repeated_entries_append (attributes : List AttributeDef) (a : AttributeDef) :
    repeatedEntries (attributes ++ [a]) = repeatedEntries attributes ++
      if a.name ∈ attributes.map (·.name) then [a] else [] := by
  refine (map_filter_zip_idx_append
    (fun before entry => entry.name ∈ before.map (·.name)) attributes a).trans ?_
  simp only [decide_eq_true_eq]
  rfl

/-- The repeated entries and the different names make up the whole list. -/
theorem length_repeated_entries_add (attributes : List AttributeDef) :
    (repeatedEntries attributes).length + (attributes.map (·.name)).dedup.length =
      attributes.length := by
  induction attributes using List.reverseRecOn with
  | nil => rfl
  | append_singleton attributes a ih =>
      rw [← List.card_toFinset] at ih ⊢
      have hnames : ((attributes ++ [a]).map (·.name)).toFinset =
          insert a.name (attributes.map (·.name)).toFinset := by
        ext n
        simp
      rw [repeated_entries_append, hnames, List.length_append, List.length_append]
      by_cases h : a.name ∈ attributes.map (·.name)
      · rw [if_pos h, Finset.insert_eq_of_mem (List.mem_toFinset.2 h)]
        simp only [List.length_singleton]
        omega
      · rw [if_neg h, Finset.card_insert_of_notMem (fun hmem => h (List.mem_toFinset.1 hmem))]
        simp only [List.length_singleton, List.length_nil]
        omega

/-- No entry is repeated exactly if the names are distinct. -/
theorem repeated_entries_eq_nil_iff :
    repeatedEntries attributes = [] ↔ (attributes.map (·.name)).Nodup := by
  have hlength := length_repeated_entries_add attributes
  have hnames : (attributes.map (·.name)).length = attributes.length := List.length_map _
  rw [← List.dedup_eq_self, ← List.length_eq_zero_iff]
  constructor
  · intro h
    refine (List.dedup_sublist _).eq_of_length ?_
    omega
  · intro h
    rw [h] at hlength
    omega

/-- Where an entry of a list can stand after one more entry is added at the end. -/
theorem forall_split_append_iff {α : Type} {xs : List α} {y : α} {p : List α → α → Prop} :
    (∀ before x after, xs ++ [y] = before ++ x :: after → p before x) ↔
      (∀ before x after, xs = before ++ x :: after → p before x) ∧ p xs y := by
  constructor
  · intro h
    refine ⟨fun before x after hxs => h before x (after ++ [y]) ?_, h xs y [] rfl⟩
    rw [hxs, List.append_assoc, List.cons_append]
  · rintro ⟨hxs, hy⟩ before x after heq
    rcases List.eq_nil_or_concat after with rfl | ⟨rest, last, rfl⟩
    · obtain ⟨rfl, hlast⟩ := List.append_inj' heq rfl
      cases hlast
      exact hy
    · rw [List.concat_eq_append, ← List.cons_append, ← List.append_assoc] at heq
      exact hxs before x rest (List.append_inj' heq rfl).1

namespace Conformance

/-- One more name is reported if it is there already. -/
theorem repeats_append (seen names : List String) (n : String) :
    repeats seen (names ++ [n]) =
      repeats seen names ++ if n ∈ seen ∨ n ∈ names then [n] else [] := by
  induction names generalizing seen with
  | nil => simp [repeats]
  | cons name names ih =>
      rw [List.cons_append, repeats, repeats, ih, ih]
      by_cases h : name ∈ seen
      · -- a name that is seen already need not be noted again
        have hsame : n ∈ seen ∨ n ∈ name :: names ↔ n ∈ seen ∨ n ∈ names := by
          rw [List.mem_cons, ← or_assoc, or_iff_left_of_imp (fun heq : n = name => heq ▸ h)]
        have hseen : seen.contains name = true := List.contains_iff_mem.2 h
        simp only [hsame, hseen, if_true, List.cons_append]
      · have hsame : n ∈ seen ∨ n ∈ name :: names ↔ n ∈ name :: seen ∨ n ∈ names := by
          rw [List.mem_cons, List.mem_cons, or_left_comm, or_assoc]
        have hseen : seen.contains name = false := by simpa using h
        simp only [hsame, hseen, Bool.false_eq_true, if_false]

/-- The names that are reported are those of the repeated entries. -/
theorem repeats_eq (attributes : List AttributeDef) :
    repeats [] (attributes.map (·.name)) = (repeatedEntries attributes).map (·.name) := by
  induction attributes using List.reverseRecOn with
  | nil => rfl
  | append_singleton attributes a ih =>
      rw [List.map_append, List.map_singleton, repeats_append, ih, repeated_entries_append,
        List.map_append]
      by_cases h : a.name ∈ attributes.map (·.name)
      · rw [if_pos h, if_pos (.inr h)]
        rfl
      · rw [if_neg h, if_neg (by simpa using h)]
        rfl

end Conformance

namespace AttributeResolution

/-- The items that add an entry have the names of all items. -/
theorem mem_names_contributors_iff {n : String} :
    n ∈ (contributors items).map (·.name) ↔ n ∈ items.map (·.name) := by
  have h := resolves_foldl_add items
  rw [← h.ordered]
  exact h.mem_names_iff

/-- The names that items add are different exactly if no item from a group comes after one with its
name. -/
theorem nodup_contributors_iff (items : List SourceItem) :
    ((contributors items).map (·.name)).Nodup ↔
      ∀ before item after, items = before ++ item :: after → item.spliced?.isSome →
        item.name ∉ before.map (·.name) := by
  induction items using List.reverseRecOn with
  | nil => simp [contributors]
  | append_singleton items item ih =>
      have hadded : ((contributors items ++ [item]).map (·.name)).Nodup ↔
          ((contributors items).map (·.name)).Nodup ∧ item.name ∉ items.map (·.name) := by
        rw [List.map_append, List.map_singleton, ← List.concat_eq_append, List.nodup_concat,
          mem_names_contributors_iff, and_comm]
      rw [forall_split_append_iff, ← ih, contributors_append]
      by_cases hspliced : item.spliced?.isSome
      · rw [if_pos (.inl hspliced), hadded, forall_prop_of_true hspliced]
      · have hkept : item.spliced?.isSome → item.name ∉ items.map (·.name) :=
          fun h => absurd h hspliced
        rw [and_iff_left hkept]
        by_cases hnew : item.name ∉ items.map (·.name)
        · rw [if_pos (.inr hnew), hadded, and_iff_left hnew]
        · rw [if_neg (not_or.2 ⟨hspliced, hnew⟩), List.append_nil]

/-- An attribute list has different names exactly if no item from a group comes after one with its
name. -/
theorem Resolves.nodup_iff (h : Resolves items attributes) :
    (attributes.map (·.name)).Nodup ↔
      ∀ before item after, items = before ++ item :: after → item.spliced?.isSome →
        item.name ∉ before.map (·.name) := by
  rw [h.ordered]
  exact nodup_contributors_iff items

/-- An element that refers to no group is made from its own attributes alone. -/
theorem spliced?_eq_none_of_mem_source_items (h : ∀ entry ∈ e.attributes, ∃ a, entry = .single a)
    {item : SourceItem} (hitem : item ∈ sourceItems r e) : item.spliced? = none := by
  have hshared : ¬(hasQualifier e.name = false ∧
      .group AttributeEntry.globalReference ∈ e.attributes) := by
    rintro ⟨-, hrefers⟩
    obtain ⟨a, ha⟩ := h _ hrefers
    cases ha
  rw [sourceItems, if_neg hshared, List.nil_append, List.mem_flatMap] at hitem
  obtain ⟨entry, hentry, hitem⟩ := hitem
  obtain ⟨a, rfl⟩ := h entry hentry
  rw [itemsOf, List.mem_singleton] at hitem
  rw [hitem]
  rfl

/-- An element that refers to no group names each attribute once, if none is added to every
element. -/
theorem nodup_attributes_of_inline (h : ∀ entry ∈ e.attributes, ∃ a, entry = .single a)
    (hextension : r.groupAttributes AttributeEntry.extensionGroup = []) :
    ((r.attributesOf e).map (·.name)).Nodup := by
  have hresolves := resolves_foldl_add (sourceItems r e)
  rw [foldl_add_source_items] at hresolves
  rw [Repository.attributesOf, hextension, List.append_nil, hresolves.nodup_iff]
  intro before item after hitems hspliced
  have hitem : item ∈ sourceItems r e := by
    rw [hitems]
    exact List.mem_append_right _ List.mem_cons_self
  rw [spliced?_eq_none_of_mem_source_items h hitem] at hspliced
  cases hspliced

end AttributeResolution

/-! ### The check of attribute lists -/

namespace Conformance

/-- `resolutionResult r` is the result of the check of attribute lists. -/
def resolutionResult (r : Repository) : Result :=
  .ofViolations "elements" "attribute resolution" (resolutionViolations r) .warning

/-- `repetitionLines e attributes` has a line for each repeated entry in the list of `e`. -/
def repetitionLines (e : ElementDef) (attributes : List AttributeDef) : List String :=
  (repeatedEntries attributes).map fun a =>
    angled e.name ++ " resolves " ++ Text.quoted a.name ++ " twice"

/-- There is no line exactly if the names are distinct. -/
theorem repetition_lines_eq_nil_iff :
    repetitionLines e attributes = [] ↔ (attributes.map (·.name)).Nodup := by
  rw [repetitionLines, List.map_eq_nil_iff, repeated_entries_eq_nil_iff]

/-- Every element resolves, so that only repeated entries are reported. -/
theorem resolution_violations_eq (r : Repository) :
    resolutionViolations r =
      r.document.elements.flatMap fun e => repetitionLines e (r.attributesOf e) := by
  refine List.flatMap_congr fun e he => ?_
  rw [Repository.attributes?_of_mem he]
  show (repeats [] _).map _ = _
  rw [repeats_eq, List.map_map]
  rfl

/-- A line about a repeated entry does not say that an element has no attribute list. -/
theorem ne_of_mem_repetition_lines {line : String} (h : line ∈ repetitionLines e attributes)
    (name : String) : angled name ++ " does not resolve" ≠ line := by
  rintro rfl
  obtain ⟨a, -, ha⟩ := List.mem_map.1 h
  have htwice : " twice".toList <:+ (angled name ++ " does not resolve").toList := by
    rw [← ha, String.toList_append]
    exact List.suffix_append _ _
  have hresolve : " does not resolve".toList <:+ (angled name ++ " does not resolve").toList := by
    rw [String.toList_append]
    exact List.suffix_append _ _
  -- of two ends of one text, one is an end of the other
  have hends := List.suffix_or_suffix_of_suffix htwice hresolve
  revert hends
  decide

/-- Every element of the document has an attribute list, so that the check of attribute lists never
says that one does not resolve. For each element it has one line for each entry whose name occurs
before in the list, in order: as many as there are entries beyond the different names. It is a
warning exactly if some element has such a line, and passes otherwise. An element that refers to no
group has none, however often it names an attribute, if no attributes are added to every element. -/
theorem resolution_of_elements (r : Repository) :
    (report r).results[3]? = some (resolutionResult r) ∧
    (∀ name, angled name ++ " does not resolve" ∉ (resolutionResult r).details) ∧
    (∀ e ∈ r.document.elements, r.attributes? e.name = some (r.attributesOf e)) ∧
    (resolutionResult r).details =
      (r.document.elements.flatMap fun e => repetitionLines e (r.attributesOf e)) ∧
    (∀ e ∈ r.document.elements, (repetitionLines e (r.attributesOf e)).length +
      ((r.attributesOf e).map (·.name)).dedup.length = (r.attributesOf e).length) ∧
    ((resolutionResult r).severity = .warning ↔
      ∃ e ∈ r.document.elements, repetitionLines e (r.attributesOf e) ≠ []) ∧
    ((resolutionResult r).severity = .pass ↔
      ∀ e ∈ r.document.elements, repetitionLines e (r.attributesOf e) = []) ∧
    ∀ e ∈ r.document.elements, (∀ entry ∈ e.attributes, ∃ a, entry = .single a) →
      r.groupAttributes AttributeEntry.extensionGroup = [] →
        repetitionLines e (r.attributesOf e) = [] := by
  have hdetails : (resolutionResult r).details =
      r.document.elements.flatMap fun e => repetitionLines e (r.attributesOf e) := by
    rw [resolutionResult, Result.details_of_violations, resolution_violations_eq]
  have hseverity : (resolutionResult r).severity =
      if ∀ e ∈ r.document.elements, repetitionLines e (r.attributesOf e) = [] then .pass
      else .warning := by
    rw [resolutionResult, Result.severity_of_violations, Severity.ifAny, resolution_violations_eq]
    simp only [List.flatMap_eq_nil_iff]
  refine ⟨?_, fun name hline => ?_, fun e he => Repository.attributes?_of_mem he, hdetails,
    fun e he => ?_, ?_, ?_, fun e he hinline hextension => ?_⟩
  · rw [results_report]
    rfl
  · rw [hdetails, List.mem_flatMap] at hline
    obtain ⟨e, -, hline⟩ := hline
    exact ne_of_mem_repetition_lines hline name rfl
  · rw [repetitionLines, List.length_map, length_repeated_entries_add]
  · rw [hseverity]
    simp
  · rw [hseverity]
    simp
  · exact repetition_lines_eq_nil_iff.2 (nodup_attributes_of_inline hinline hextension)

/-- The list of the source names its address twice, and there is a warning about the second time. -/
theorem resolution_of_source :
    ∃ r, Repository.ofDocument sourceDocument = .ok r ∧
      r.attributes? "source" = some [describedAddress, address] ∧
      (resolutionResult r).details = ["<source> resolves \"srcset\" twice"] ∧
      (resolutionResult r).severity = .warning := by
  obtain ⟨r, hr⟩ := Repository.exists_of_document_iff.2
    (show sourceDocument.defect? = none by cbv)
  have hdocument := Repository.document_of_ok hr
  have hsource : source ∈ r.document.elements := hdocument ▸ List.mem_cons_self
  have hlines : repetitionLines source (r.attributesOf source) =
      ["<source> resolves \"srcset\" twice"] := by
    rw [attributes_of_source hdocument]
    decide
  obtain ⟨-, -, hresolves, hdetails, -, hwarning, -⟩ := resolution_of_elements r
  refine ⟨r, hr, ?_, ?_, hwarning.2 ⟨source, hsource, ?_⟩⟩
  · rw [← attributes_of_source hdocument]
    exact hresolves source hsource
  · rw [hdetails, hdocument, ← hlines]
    exact List.flatMap_singleton ..
  · rw [hlines]
    exact List.cons_ne_nil _ _

end Conformance

end MarkupSemantics
