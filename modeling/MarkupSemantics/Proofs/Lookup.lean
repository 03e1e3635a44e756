import Mathlib.Data.List.Nodup
import MarkupSemantics.Repository

/-!
# Look-ups by name

What a look-up finds where names are distinct. `find_role?_eq_some_iff` says it for the roles of a
version and `element?_eq_some_iff` for the elements of a repository: both find the one entry of the
list that has the name.
-/

namespace MarkupSemantics

section Key

variable {α : Type} (key : α → String) {name : String} {x : α}

/-- Among entries with distinct keys, a search by key finds the entry with the key. -/
theorem find?_key_eq_some_iff {xs : List α} (h : (xs.map key).Nodup) :
    xs.find? (key · == name) = some x ↔ x ∈ xs ∧ key x = name := by
  constructor
  · intro hfound
    exact ⟨List.mem_of_find?_eq_some hfound, by simpa using List.find?_some hfound⟩
  · rintro ⟨hmem, rfl⟩
    have hsome : (xs.find? (key · == key x)).isSome := by
      rw [List.find?_isSome]
      exact ⟨x, hmem, by simp⟩
    obtain ⟨found, hfound⟩ := Option.isSome_iff_exists.1 hsome
    have hkey : key found = key x := by simpa using List.find?_some hfound
    rw [hfound, List.inj_on_of_nodup_map h (List.mem_of_find?_eq_some hfound) hmem hkey]

/-- Entries under their keys are looked up by a search for the key. -/
theorem lookup_map_key (xs : List α) :
    (xs.map fun x => (key x, x)).lookup name = xs.find? (key · == name) := by
  induction xs with
  | nil => rfl
  | cons head rest ih =>
      rw [List.map_cons, StringMap.lookup_cons_entry, List.find?_cons, ih]
      by_cases h : name = key head
      · simp [h]
      · have hhead : (key head == name) = false := by simpa using Ne.symm h
        simp [h, hhead]

end Key

namespace StringMap

variable {α : Type}

/-- A map gives a value exactly to its keys. -/
theorem get?_is_some_iff {m : StringMap α} {key : String} :
    (m.get? key).isSome ↔ key ∈ m.keys := by
  rw [get?, keys]
  induction m.entries with
  | nil => simp
  | cons head rest ih =>
      rw [lookup_cons_entry, List.map_cons, List.mem_cons, ← ih]
      by_cases h : key = head.1 <;> simp [h]

/-- A map gives a key the value that stands under it. -/
theorem get?_eq_some_iff {m : StringMap α} {key : String} {value : α} :
    m.get? key = some value ↔ (key, value) ∈ m.entries := by
  rw [get?, List.lookup_eq_some_iff]
  constructor
  · rintro ⟨before, after, hentries, -⟩
    rw [hentries]
    exact List.mem_append_right before List.mem_cons_self
  · intro h
    obtain ⟨before, after, hentries⟩ := List.append_of_mem h
    refine ⟨before, after, hentries, fun entry hentry => ?_⟩
    -- keys increase, so no entry before this one has its key
    have hsorted := m.sorted
    rw [hentries] at hsorted
    have hlt := (List.pairwise_append.1 hsorted).2.2 entry hentry _ List.mem_cons_self
    exact bne_iff_ne.2 (String.ne_of_lt hlt).symm

/-- Of the entries that are inserted, the last one with a key counts, and then the map before. -/
theorem get?_foldl_insert (entries : List (String × α)) (m : StringMap α) (key : String) :
    (entries.foldl (fun m (key, value) => m.insert key value) m).get? key =
      (entries.reverse.lookup key).or (m.get? key) := by
  induction entries generalizing m with
  | nil => rfl
  | cons head rest ih =>
      rw [List.foldl_cons, ih, List.reverse_cons, List.lookup_append, Option.or_assoc, get?_insert,
        lookup_cons_entry]
      split <;> rfl

/-- In a map made from entries, the last entry with a key counts. -/
theorem get?_of_list (entries : List (String × α)) (key : String) :
    (ofList entries).get? key = entries.reverse.lookup key := by
  rw [ofList, get?_foldl_insert, get?_empty, Option.or_none]

end StringMap

namespace Aria

variable {roles : List Role} {name : String} {role : Role}

/-- A name is found exactly when some role has it. -/
theorem find_role?_is_some_iff : (findRole? roles name).isSome ↔ name ∈ roles.map (·.name) := by
  simp [findRole?]

/-- Among roles with distinct names, a look-up finds the role with the name. -/
theorem find_role?_eq_some_iff (h : (roles.map (·.name)).Nodup) :
    findRole? roles name = some role ↔ role ∈ roles ∧ role.name = name :=
  find?_key_eq_some_iff Role.name h

end Aria

namespace Repository

/-- A look-up of an element finds the element with the name. -/
theorem element?_eq_some_iff {r : Repository} {name : String} {e : ElementDef} :
    r.element? name = some e ↔ e ∈ r.document.elements ∧ e.name = name := by
  have hdistinct : (r.document.elements.reverse.map (·.name)).Nodup := by
    rw [List.map_reverse]
    exact List.nodup_reverse.2 r.elements_distinct
  rw [element?, r.index_eq, Document.index, StringMap.get?_of_list, ← List.map_reverse,
    lookup_map_key, find?_key_eq_some_iff ElementDef.name hdistinct, List.mem_reverse]

/-- A look-up of an element finds what a search through the list finds. -/
theorem element?_eq_find? (r : Repository) (name : String) :
    r.element? name = r.document.elements.find? (·.name == name) := by
  ext e
  rw [element?_eq_some_iff, find?_key_eq_some_iff ElementDef.name r.elements_distinct]

/-- A look-up of a group looks at the groups of the document. -/
theorem group?_of_document {r : Repository} {d : Document} (h : r.document = d) (name : String) :
    r.group? name = d.definitions.attributeGroups.get? name := by
  rw [group?, h]

/-- A look-up of a group finds what the document lists under its name. -/
theorem group?_eq_some_iff {r : Repository} {name : String} {attributes : List AttributeDef} :
    r.group? name = some attributes ↔
      (name, attributes) ∈ r.document.definitions.attributeGroups.entries := by
  rw [group?_of_document rfl, StringMap.get?_eq_some_iff]

/-- A look-up of a role finds the role with the name. -/
theorem role?_eq_some_iff {r : Repository} {version : Aria.Version} {name : String}
    {role : Aria.Role} :
    r.role? version name = some role ↔ role ∈ (r.aria version).allRoles ∧ role.name = name :=
  Aria.find_role?_eq_some_iff (r.roles_distinct version)

/-- A role is found exactly when it is declared. -/
theorem role?_is_some_iff {r : Repository} {version : Aria.Version} {name : String} :
    (r.role? version name).isSome ↔ name ∈ r.document.roleNames version :=
  Aria.find_role?_is_some_iff

end Repository

end MarkupSemantics
