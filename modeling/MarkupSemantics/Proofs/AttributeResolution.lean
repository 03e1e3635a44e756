import Mathlib.Data.List.Induction
import MarkupSemantics.Proofs.Lookup
import MarkupSemantics.Rules.AttributeList

/-!
# How the attributes of an element are put together

The attributes of an element come from a sequence of items, each spliced in from a group or given by
the element itself. `Resolves` says, name by name, what becomes of the items and in which order the
results stand, and `Resolves.unique` that this leaves no choice. `Resolves.add` is the step for one
more item; the main statement is `attributes_of_repository`.
-/

namespace MarkupSemantics

namespace AttributeDef

/-- `lastPresent part definitions` is the last value that one of `definitions` gives for `part`. -/
def lastPresent {α : Type} (part : AttributeDef → Option α) (definitions : List AttributeDef) :
    Option α :=
  (definitions.filterMap part).getLast?

/-- `combined name definitions` is the definition called `name` in which every optional part is the
last one that `definitions` give. -/
def combined (name : String) (definitions : List AttributeDef) : AttributeDef where
  name := name
  type := lastPresent (·.type) definitions
  description := lastPresent (·.description) definitions
  condition := lastPresent (·.condition) definitions
  caseSensitive := lastPresent (·.caseSensitive) definitions
  experimental := lastPresent (·.experimental) definitions
  obsolete := lastPresent (·.obsolete) definitions
  deprecated := lastPresent (·.deprecated) definitions
  nonStandard := lastPresent (·.nonStandard) definitions

variable {α : Type} {n : String} {a later : AttributeDef} {attributes : List AttributeDef}

/-- One definition gives the last value of every part that it has. -/
theorem last_present_singleton (part : AttributeDef → Option α) (a : AttributeDef) :
    lastPresent part [a] = part a := by
  rw [lastPresent]
  cases h : part a <;> simp [h]

/-- A further definition gives the last value, unless it leaves the part out. -/
theorem last_present_append (part : AttributeDef → Option α) (definitions : List AttributeDef)
    (later : AttributeDef) :
    lastPresent part (definitions ++ [later]) =
      (part later <|> lastPresent part definitions) := by
  rw [lastPresent, List.filterMap_append]
  cases h : part later with
  | none => simp [h, lastPresent]
  | some value => simp [h]

/-- One definition is combined to itself. -/
theorem combined_singleton (a : AttributeDef) : combined a.name [a] = a := by
  simp [combined, last_present_singleton]

/-- To combine one more definition is to refine by it. -/
theorem combined_append (definitions : List AttributeDef) (later : AttributeDef) :
    combined n (definitions ++ [later]) = (combined n definitions).refine later := by
  simp [combined, refine, last_present_append]

/-- `refineHead later attributes` refines the first of `attributes`, or is `later` alone. -/
def refineHead (later : AttributeDef) : List AttributeDef → List AttributeDef
  | [] => [later]
  | a :: attributes => a.refine later :: attributes

/-- A refinement changes the first of the attributes with its own name. -/
theorem filter_refine_first_self :
    (later.refineFirst attributes).filter (·.name = later.name) =
      later.refineHead (attributes.filter (·.name = later.name)) := by
  induction attributes with
  | nil => simp [refineFirst, refineHead]
  | cons a attributes ih =>
      by_cases h : a.name = later.name
      · simp [refineFirst, refineHead, refine, h]
      · simp [refineFirst, h, ih]

/-- Attributes with other names are left as they are. -/
theorem filter_refine_first_of_ne (h : later.name ≠ n) :
    (later.refineFirst attributes).filter (·.name = n) = attributes.filter (·.name = n) := by
  induction attributes with
  | nil => simp [refineFirst, h]
  | cons a attributes ih =>
      by_cases ha : a.name = later.name
      · simp [refineFirst, refine, ha, h]
      · simp [refineFirst, ha, List.filter_cons, ih]

/-- A refinement keeps the names, and adds its own name at the end if it is new. -/
theorem map_name_refine_first :
    (later.refineFirst attributes).map (·.name) =
      attributes.map (·.name) ++
        if later.name ∈ attributes.map (·.name) then [] else [later.name] := by
  induction attributes with
  | nil => simp [refineFirst]
  | cons a attributes ih =>
      by_cases h : a.name = later.name
      · simp [refineFirst, refine, h]
      · simp [refineFirst, h, ih, Ne.symm h]

end AttributeDef

/-- An attribute that the list of an element is put together from. -/
inductive SourceItem where
  /-- It comes from a group. -/
  | spliced (definition : AttributeDef)
  /-- It is given by the element itself. -/
  | inline (definition : AttributeDef)

namespace SourceItem

/-- `item.definition` is the attribute of `item`. -/
def definition : SourceItem → AttributeDef
  | spliced definition => definition
  | inline definition => definition

/-- `item.name` is the name of the attribute of `item`. -/
def name (item : SourceItem) : String :=
  item.definition.name

/-- The name of an item from a group is the one of its attribute. -/
@[simp] theorem name_spliced (a : AttributeDef) : (spliced a).name = a.name :=
  rfl

/-- The name of an item of the element is the one of its attribute. -/
@[simp] theorem name_inline (a : AttributeDef) : (inline a).name = a.name :=
  rfl

/-- `item.spliced?` is the attribute of `item` if it comes from a group. -/
def spliced? : SourceItem → Option AttributeDef
  | spliced definition => some definition
  | inline _ => none

/-- `item.inline?` is the attribute of `item` if the element itself gives it. -/
def inline? : SourceItem → Option AttributeDef
  | spliced _ => none
  | inline definition => some definition

end SourceItem

namespace AttributeResolution

open AttributeDef (combined)

variable {n : String} {items : List SourceItem} {item : SourceItem}
  {attributes : List AttributeDef}

/-- `entriesNamed n items` lists what becomes of the items named `n`: the first one, with every
optional part replaced by the last one that a later item of the element gives, and then the later
items from groups as they are. -/
def entriesNamed (n : String) (items : List SourceItem) : List AttributeDef :=
  match items.filter (·.name = n) with
  | [] => []
  | first :: later =>
      combined n (first.definition :: later.filterMap (·.inline?)) :: later.filterMap (·.spliced?)

/-- `addsEntry items item position` says `item`, which stands at `position` of `items`, adds an
entry: it comes from a group, or no item before it has its name. -/
def addsEntry (items : List SourceItem) (item : SourceItem) (position : Nat) : Bool :=
  item.spliced?.isSome || item.name ∉ (items.take position).map (·.name)

/-- `contributors items` lists the items that add an entry, in their order. -/
def contributors (items : List SourceItem) : List SourceItem :=
  (items.zipIdx.filter fun entry => addsEntry items entry.1 entry.2).map (·.1)

/-- `Resolves items attributes` says `attributes` is what `items` are put together to. -/
structure Resolves (items : List SourceItem) (attributes : List AttributeDef) : Prop where
  /-- The entries with one name are those that the items with the name make. -/
  named : ∀ n, attributes.filter (·.name = n) = entriesNamed n items
  /-- The entries stand in the order in which the items add them. -/
  ordered : attributes.map (·.name) = (contributors items).map (·.name)

/-- `add attributes item` adds `item` to the attributes so far. -/
def add (attributes : List AttributeDef) : SourceItem → List AttributeDef
  | .spliced definition => attributes ++ [definition]
  | .inline definition => definition.refineFirst attributes

/-- Where entries are kept by what stands before them, one more entry leaves those that are kept as
they are. -/
theorem map_filter_zip_idx_append {α : Type} (keep : List α → α → Bool) (xs : List α) (x : α) :
    ((xs ++ [x]).zipIdx.filter fun entry => keep ((xs ++ [x]).take entry.2) entry.1).map (·.1) =
      (xs.zipIdx.filter fun entry => keep (xs.take entry.2) entry.1).map (·.1) ++
        if keep xs x then [x] else [] := by
  -- the entries before an earlier one are the same with and without the last entry
  have hbefore : ∀ entry ∈ xs.zipIdx,
      keep ((xs ++ [x]).take entry.2) entry.1 = keep (xs.take entry.2) entry.1 := by
    intro entry hentry
    have hlt := (List.getElem?_eq_some_iff.1 (List.mem_zipIdx_iff_getElem?.1 hentry)).1
    rw [List.take_append_of_le_length (Nat.le_of_lt hlt)]
  rw [List.zipIdx_append, List.filter_append, List.map_append, List.filter_congr hbefore]
  refine congrArg _ ?_
  rw [Nat.zero_add, List.zipIdx_singleton, List.filter_singleton, List.take_left]
  cases keep xs x with
  | true => rfl
  | false => rfl

/-- One more item adds an entry if it comes from a group or has a new name. -/
theorem contributors_append :
    contributors (items ++ [item]) = contributors items ++
      if item.spliced?.isSome ∨ item.name ∉ items.map (·.name) then [item] else [] := by
  refine (map_filter_zip_idx_append (fun before item =>
    item.spliced?.isSome || item.name ∉ before.map (·.name)) items item).trans ?_
  simp only [Bool.or_eq_true, decide_eq_true_eq]
  rfl

/-- An item with another name changes nothing. -/
theorem entries_named_append_of_ne (h : item.name ≠ n) :
    entriesNamed n (items ++ [item]) = entriesNamed n items := by
  simp [entriesNamed, List.filter_append, h]

/-- An item from a group becomes an entry of its own. -/
theorem entries_named_append_spliced (a : AttributeDef) :
    entriesNamed a.name (items ++ [.spliced a]) = entriesNamed a.name items ++ [a] := by
  rw [entriesNamed, entriesNamed, List.filter_append]
  cases items.filter (·.name = a.name) with
  | nil => simp [SourceItem.definition, AttributeDef.combined_singleton]
  | cons first later => simp [SourceItem.inline?, SourceItem.spliced?]

/-- An item of the element refines the first entry with its name, or becomes one. -/
theorem entries_named_append_inline (a : AttributeDef) :
    entriesNamed a.name (items ++ [.inline a]) = a.refineHead (entriesNamed a.name items) := by
  rw [entriesNamed, entriesNamed, List.filter_append]
  cases items.filter (·.name = a.name) with
  | nil =>
      simp [SourceItem.definition, AttributeDef.combined_singleton, AttributeDef.refineHead]
  | cons first later =>
      simp [SourceItem.inline?, SourceItem.spliced?, AttributeDef.refineHead,
        ← AttributeDef.combined_append]

/-- Nothing becomes of a name that no item has. -/
theorem entries_named_eq_nil_iff : entriesNamed n items = [] ↔ n ∉ items.map (·.name) := by
  have hfilter : entriesNamed n items = [] ↔ items.filter (·.name = n) = [] := by
    rw [entriesNamed]
    cases items.filter (·.name = n) <;> simp
  rw [hfilter, List.filter_eq_nil_iff]
  simp

/-- A name is among the attributes exactly when some item has it. -/
theorem Resolves.mem_names_iff (h : Resolves items attributes) :
    n ∈ attributes.map (·.name) ↔ n ∈ items.map (·.name) := by
  rw [← not_iff_not, ← entries_named_eq_nil_iff, ← h.named, List.filter_eq_nil_iff]
  simp

/-- Nothing is put together to nothing. -/
theorem Resolves.nil : Resolves [] [] :=
  ⟨fun _ => rfl, rfl⟩

/-- An item from a group is added at the end. -/
theorem Resolves.splice (h : Resolves items attributes) (a : AttributeDef) :
    Resolves (items ++ [.spliced a]) (attributes ++ [a]) := by
  have hadds : (SourceItem.spliced a).spliced?.isSome ∨
      (SourceItem.spliced a).name ∉ items.map (·.name) := Or.inl rfl
  have hcontributors : contributors (items ++ [.spliced a]) =
      contributors items ++ [.spliced a] := by
    rw [contributors_append, if_pos hadds]
  refine ⟨fun n => ?_, ?_⟩
  · rw [List.filter_append, h.named]
    by_cases hname : a.name = n
    · subst hname
      rw [entries_named_append_spliced]
      simp
    · rw [entries_named_append_of_ne (by simpa using hname)]
      simp [hname]
  · rw [hcontributors, List.map_append, List.map_append, h.ordered]
    rfl

/-- An item of the element refines the first entry with its name, or is added at the end. -/
theorem Resolves.merge (h : Resolves items attributes) (a : AttributeDef) :
    Resolves (items ++ [.inline a]) (a.refineFirst attributes) := by
  have hcontributors : contributors (items ++ [.inline a]) =
      contributors items ++ if a.name ∈ attributes.map (·.name) then [] else [.inline a] := by
    rw [contributors_append]
    -- the two sides ask for the name in different lists, which have the same names
    by_cases hmem : a.name ∈ attributes.map (·.name)
    · have hkeeps : ¬((SourceItem.inline a).spliced?.isSome ∨
          (SourceItem.inline a).name ∉ items.map (·.name)) := by
        rintro (hspliced | hnew)
        · cases hspliced
        · exact hnew (h.mem_names_iff.1 hmem)
      rw [if_pos hmem, if_neg hkeeps]
    · have hadds : (SourceItem.inline a).spliced?.isSome ∨
          (SourceItem.inline a).name ∉ items.map (·.name) :=
        Or.inr fun hold => hmem (h.mem_names_iff.2 hold)
      rw [if_neg hmem, if_pos hadds]
  refine ⟨fun n => ?_, ?_⟩
  · by_cases hname : a.name = n
    · subst hname
      rw [entries_named_append_inline, AttributeDef.filter_refine_first_self, h.named]
    · rw [entries_named_append_of_ne (by simpa using hname),
        AttributeDef.filter_refine_first_of_ne hname, h.named]
  · rw [AttributeDef.map_name_refine_first, hcontributors, List.map_append, ← h.ordered]
    split <;> rfl

/-- One more item is resolved by adding it to the attributes so far. -/
theorem Resolves.add (h : Resolves items attributes) (item : SourceItem) :
    Resolves (items ++ [item]) (add attributes item) := by
  cases item with
  | spliced a => exact h.splice a
  | inline a => exact h.merge a

/-- Items are resolved by adding one after the other. -/
theorem resolves_foldl_add (items : List SourceItem) : Resolves items (items.foldl add []) := by
  induction items using List.reverseRecOn with
  | nil => exact .nil
  | append_singleton items item ih =>
      rw [List.foldl_append]
      exact ih.add item

/-- Lists with the same names in the same order and the same entries for each name are equal. -/
theorem eq_of_names_eq {first second : List AttributeDef}
    (hnames : first.map (·.name) = second.map (·.name))
    (hentries : ∀ n, first.filter (·.name = n) = second.filter (·.name = n)) : first = second := by
  induction first generalizing second with
  | nil => exact (List.map_eq_nil_iff.1 hnames.symm).symm
  | cons a first ih =>
      cases second with
      | nil => cases hnames
      | cons b second =>
          obtain ⟨hname, hrest⟩ := List.cons.inj hnames
          -- both heads come first among the entries with their common name
          have hhead : a = b := by
            have hfirst := hentries b.name
            rw [List.filter_cons_of_pos (by simpa using hname),
              List.filter_cons_of_pos (by simp)] at hfirst
            exact (List.cons.inj hfirst).1
          subst hhead
          refine congrArg (a :: ·) (ih hrest fun n => ?_)
          have hn := hentries n
          by_cases h : a.name = n
          · rw [List.filter_cons_of_pos (by simpa using h),
              List.filter_cons_of_pos (by simpa using h)] at hn
            exact (List.cons.inj hn).2
          · rw [List.filter_cons_of_neg (by simpa using h),
              List.filter_cons_of_neg (by simpa using h)] at hn
            exact hn

/-- What items are put together to is determined. -/
theorem Resolves.unique {other : List AttributeDef} (h : Resolves items attributes)
    (hother : Resolves items other) : attributes = other :=
  eq_of_names_eq (h.ordered.trans hother.ordered.symm) fun n =>
    (h.named n).trans (hother.named n).symm

/-! ### Attributes from groups and entries -/

variable {r : Repository} {e : ElementDef}

/-- `splicedFrom r group` lists the attributes of the group as items, none if there is no such
group. -/
def splicedFrom (r : Repository) (group : String) : List SourceItem :=
  ((r.group? group).getD []).map .spliced

/-- `itemsOf r entry` lists what `entry` stands for. -/
def itemsOf (r : Repository) : AttributeEntry → List SourceItem
  | .group name => splicedFrom r name
  | .single definition => [.inline definition]

/-- `sourceItems r e` lists the items from which the attributes of `e` are put together: those that
HTML elements share, if `e` refers to them and its name has no qualifier, and then those of its
entries. -/
def sourceItems (r : Repository) (e : ElementDef) : List SourceItem :=
  (if hasQualifier e.name = false ∧ .group AttributeEntry.globalReference ∈ e.attributes then
    splicedFrom r AttributeEntry.htmlGlobalGroup
  else []) ++ e.attributes.flatMap (itemsOf r)

/-- Items from a group are added as they are. -/
theorem foldl_add_spliced (attributes group : List AttributeDef) :
    (group.map SourceItem.spliced).foldl add attributes = attributes ++ group := by
  induction group generalizing attributes with
  | nil => simp
  | cons a group ih =>
      rw [List.map_cons, List.foldl_cons, ih, add, List.append_assoc, List.singleton_append]

/-- An entry is added by adding the items that it stands for. -/
theorem foldl_add_items_of (attributes : List AttributeDef) (entry : AttributeEntry) :
    (itemsOf r entry).foldl add attributes = r.addEntry attributes entry := by
  cases entry with
  | group name => exact foldl_add_spliced attributes _
  | single a => rfl

/-- The attributes of an element, apart from those added to every element, are its items added one
after the other. -/
theorem foldl_add_source_items :
    (sourceItems r e).foldl add [] = e.attributes.foldl r.addEntry (r.sharedAttributes e) := by
  have hshared : (if hasQualifier e.name = false ∧
      .group AttributeEntry.globalReference ∈ e.attributes then
        splicedFrom r AttributeEntry.htmlGlobalGroup else []).foldl add [] =
      r.sharedAttributes e := by
    by_cases h : hasQualifier e.name = false ∧ .group AttributeEntry.globalReference ∈ e.attributes
    · have hrefers : e.refersToGlobals := List.contains_iff_mem.2 h.2
      rw [if_pos h, splicedFrom, foldl_add_spliced, Repository.sharedAttributes, h.1, hrefers]
      rfl
    · have hneither : ¬(!hasQualifier e.name && e.refersToGlobals) := by
        simpa [ElementDef.refersToGlobals] using h
      rw [if_neg h, Repository.sharedAttributes, if_neg hneither]
      rfl
  have hentry : ∀ attributes entry,
      (itemsOf r entry).foldl add attributes = r.addEntry attributes entry := foldl_add_items_of
  rw [sourceItems, List.foldl_append, hshared, List.foldl_flatMap]
  simp only [hentry]

/-- The attributes of an element are what its items are put together to, followed by those that are
added to every element. A group stands for the attributes that the document lists under its name. -/
theorem attributes_of_repository (r : Repository) (name : String) :
    ((∀ e ∈ r.document.elements, e.name ≠ name) → r.attributes? name = none) ∧
      (∀ e ∈ r.document.elements, e.name = name →
        ∃ resolved, Resolves (sourceItems r e) resolved ∧
          (∀ other, Resolves (sourceItems r e) other → other = resolved) ∧
          r.attributes? name =
            some (resolved ++ (r.group? AttributeEntry.extensionGroup).getD [])) ∧
      ∀ group attributes, r.group? group = some attributes ↔
        (group, attributes) ∈ r.document.definitions.attributeGroups.entries := by
  refine ⟨fun habsent => ?_, fun e he hname => ?_, fun _ _ => Repository.group?_eq_some_iff⟩
  · have hnone : r.element? name = none := by
      rw [Option.eq_none_iff_forall_ne_some]
      intro e he
      obtain ⟨hmem, hname⟩ := Repository.element?_eq_some_iff.1 he
      exact habsent e hmem hname
    rw [Repository.attributes?, hnone]
    rfl
  · have hsome : r.element? name = some e := Repository.element?_eq_some_iff.2 ⟨he, hname⟩
    have hresolves := resolves_foldl_add (sourceItems r e)
    refine ⟨(sourceItems r e).foldl add [], hresolves, fun other hother => ?_, ?_⟩
    · exact hother.unique hresolves
    · rw [Repository.attributes?, hsome, foldl_add_source_items]
      rfl

/-! ### A group that is named twice -/

/-- The address of a source, which counts only where a medium is named. -/
def address : AttributeDef where
  name := "srcset"
  condition := some (.matching "[media]")

/-- The address, with what it is for. -/
def describedAddress : AttributeDef :=
  { address with description := some "images" }

/-- A source. It refers to the group with its address twice, and describes the address in
between. -/
def source : ElementDef where
  name := "source"
  attributes := [.group "#Source", .single { name := "srcset", description := some "images" },
    .group "#Source"]

/-- A document with the source and the group. -/
def sourceDocument : Document where
  definitions := { attributeGroups := StringMap.empty.insert "#Source" [address] }
  elements := [source]

/-- The address stands in the list of the source twice, and is described where it stands first. -/
theorem attributes_of_source (h : r.document = sourceDocument) :
    r.attributesOf source = [describedAddress, address] := by
  have hgroup : ∀ name,
      r.groupAttributes name = (sourceDocument.definitions.attributeGroups.get? name).getD [] := by
    intro name
    rw [Repository.groupAttributes, Repository.group?_of_document h]
  have hshared : r.sharedAttributes source = [] := rfl
  rw [Repository.attributesOf, hshared]
  simp only [source, List.foldl_cons, List.foldl_nil, Repository.addEntry, hgroup]
  decide

end AttributeResolution

end MarkupSemantics
