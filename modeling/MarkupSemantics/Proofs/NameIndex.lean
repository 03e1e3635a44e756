import Mathlib.Data.List.Count
import MarkupSemantics.Proofs.Acceptance

/-!
# The index of names

The elements of a repository are looked up in an index that is filled with one element after
another. `entries_foldl_insert_perm` says what the filling keeps, and `index_entries_perm` that the
index has exactly the elements of the document, each under its name. The main statement is
`lookups_of_accepted`: a look-up of an element is a search through the list, and elements and roles
are found under their own names only.
-/

namespace MarkupSemantics

namespace StringMap

variable {α : Type} {key : String} {value : α}

/-- An entry with a new key joins the entries. -/
theorem insert_entry_perm {entries : List (String × α)} (h : key ∉ entries.map (·.1)) :
    (insertEntry key value entries).Perm ((key, value) :: entries) := by
  induction entries with
  | nil => exact .refl _
  | cons head rest ih =>
      obtain ⟨_, hrest⟩ := not_or.1 (List.mem_cons.not.1 h)
      rw [insertEntry]
      split
      · exact .refl _
      · exact ((ih hrest).cons head).trans (.swap _ _ _)

/-- An insertion adds its own key only. -/
theorem mem_keys_insert {m : StringMap α} {other : String} :
    other ∈ (m.insert key value).keys ↔ other = key ∨ other ∈ m.keys := by
  rw [← get?_is_some_iff, get?_insert, ← get?_is_some_iff]
  by_cases h : other = key <;> simp [h]

/-- Entries with new and distinct keys join the entries of a map. -/
theorem entries_foldl_insert_perm {entries : List (String × α)} {m : StringMap α}
    (hdistinct : (entries.map (·.1)).Nodup) (hnew : ∀ entry ∈ entries, entry.1 ∉ m.keys) :
    (entries.foldl (fun m (key, value) => m.insert key value) m).entries.Perm
      (m.entries ++ entries) := by
  induction entries generalizing m with
  | nil => simp
  | cons head rest ih =>
      obtain ⟨hhead, hrest⟩ := List.nodup_cons.1 hdistinct
      have hadded : (m.insert head.1 head.2).entries.Perm (head :: m.entries) :=
        insert_entry_perm (hnew head List.mem_cons_self)
      have hlater : ∀ entry ∈ rest, entry.1 ∉ (m.insert head.1 head.2).keys := by
        intro entry hentry
        rw [mem_keys_insert, not_or]
        exact ⟨ne_of_mem_of_not_mem (List.mem_map_of_mem hentry) hhead,
          hnew entry (List.mem_cons_of_mem _ hentry)⟩
      rw [List.foldl_cons]
      exact (ih hrest hlater).trans ((hadded.append_right rest).trans List.perm_middle.symm)

/-- A map made from entries with distinct keys has these entries. -/
theorem entries_of_list_perm {entries : List (String × α)} (h : (entries.map (·.1)).Nodup) :
    (ofList entries).entries.Perm entries :=
  entries_foldl_insert_perm h fun _ _ hmem => nomatch hmem

end StringMap

namespace Repository

variable {r : Repository} {name : String}

/-- The index has the elements of the document, each under its name. -/
theorem index_entries_perm (r : Repository) :
    r.index.entries.Perm (r.document.elements.map fun e => (e.name, e)) := by
  rw [r.index_eq]
  refine StringMap.entries_of_list_perm ?_
  rw [List.map_map]
  exact r.elements_distinct

/-- An element is found under its own name and no other. -/
theorem element?_eq_some_iff_of_mem {e : ElementDef} (h : e ∈ r.document.elements) :
    r.element? name = some e ↔ name = e.name := by
  rw [element?_eq_some_iff, and_iff_right h, eq_comm]

/-- At most one role has a name. -/
theorem count_role_le_one (r : Repository) (version : Aria.Version) (name : String) :
    (r.aria version).allRoles.countP (·.name == name) ≤ 1 := by
  have hcount : (r.aria version).allRoles.countP (·.name == name) =
      (r.document.roleNames version).count name := by
    rw [List.count, Document.roleNames, List.countP_map]
    rfl
  rw [hcount]
  exact List.nodup_iff_count_le_one.1 (r.roles_distinct version) name

/-- The index of an accepted document has exactly its elements, each once and under its name. A
look-up of an element finds what a search through the list finds, so every element is found under
its own name and no other. A look-up of a role finds exactly the core and graphics roles with the
name, and there is at most one among them. -/
theorem lookups_of_accepted {d : Document} (h : ofDocument d = .ok r) :
    r.index.entries.Perm (d.elements.map fun e => (e.name, e)) ∧
    (∀ name, r.element? name = d.elements.find? (·.name == name)) ∧
    (∀ e ∈ d.elements, ∀ name, r.element? name = some e ↔ name = e.name) ∧
    ∀ version name,
      (∀ role, r.role? version name = some role ↔
        (role ∈ (d.aria version).roles ∨ role ∈ (d.aria version).graphicsRoles) ∧
          role.name = name) ∧
      ((d.aria version).roles ++ (d.aria version).graphicsRoles).countP (·.name == name) ≤ 1 := by
  obtain rfl := document_of_ok h
  refine ⟨r.index_entries_perm, r.element?_eq_find?, fun e he _ => element?_eq_some_iff_of_mem he,
    fun version name => ⟨fun role => ?_, r.count_role_le_one version name⟩⟩
  rw [role?_eq_some_iff]
  exact and_congr_left fun _ => List.mem_append

/-- Two elements with one local name, and in one version a role of either kind. -/
def drawing : Document where
  elements := [{ name := "a" }, { name := "svg:a", ns := some .svg }]
  definitions := { aria := { v12 := {
    roles := [{ name := "img" }], graphicsRoles := [{ name := "plot" }] } } }

/-- In `drawing`, the elements are told apart, and the graphics role is found in its version. -/
theorem lookups_of_drawing :
    ∃ r, ofDocument drawing = .ok r ∧
      (∀ name, r.element? name = some { name := "svg:a", ns := some .svg } ↔ name = "svg:a") ∧
      r.element? "b" = none ∧ r.role? .v12 "plot" = some { name := "plot" } ∧
      r.role? .v11 "plot" = none := by
  obtain ⟨r, h⟩ := exists_of_document_iff.2 (show drawing.defect? = none by cbv)
  obtain ⟨-, hscan, hown, hroles⟩ := lookups_of_accepted h
  refine ⟨r, h, hown { name := "svg:a", ns := some .svg } (by decide), ?_, ?_, ?_⟩
  · rw [hscan]
    decide
  · exact ((hroles .v12 "plot").1 _).2 ⟨by decide, rfl⟩
  · rw [Option.eq_none_iff_forall_ne_some]
    intro role hrole
    rcases (((hroles .v11 "plot").1 role).1 hrole).1 with hcore | hgraphics
    · exact List.not_mem_nil hcore
    · exact List.not_mem_nil hgraphics

end Repository

end MarkupSemantics
