import Mathlib.Data.List.Nodup
import MarkupSemantics.Json.Record

/-!
# Written records

What is read from a record that was written field by field. `record?_of_record` says the object of
distinct fields is read as a record that holds each of them, and a lemma for each kind of field says
that reading the field gives back what was written, also where the field was left out.
-/

namespace MarkupSemantics.Json

variable {α : Type} {fields : List (String × Option Json)} {name : String}

/-- `members fields` lists the members that are written for `fields`. -/
def members (fields : List (String × Option Json)) : Record :=
  fields.filterMap fun (name, value) => value.map fun value => (name, value)

/-- A field that is left out writes no member. -/
theorem members_cons_none : members ((name, none) :: fields) = members fields :=
  rfl

/-- A field with a value writes a member under its name. -/
theorem members_cons_some (value : Json) :
    members ((name, some value) :: fields) = (name, value) :: members fields :=
  rfl

/-- The keys of the members are names of fields, in their order. -/
theorem keys_members_sublist : ((members fields).map (·.1)).Sublist (fields.map (·.1)) := by
  induction fields with
  | nil => exact List.Sublist.refl []
  | cons head rest ih =>
      obtain ⟨name, value⟩ := head
      cases value with
      | none => exact ih.cons name
      | some value => exact ih.cons_cons name

/-- A name that is no field is no key. -/
theorem lookup_members_eq_none (h : name ∉ fields.map (·.1)) :
    (members fields).lookup name = none := by
  refine List.lookup_eq_none_iff.2 fun member hmember => ?_
  have hkey : member.1 ∈ (members fields).map (·.1) := List.mem_map_of_mem hmember
  simpa using (ne_of_mem_of_not_mem (keys_members_sublist.subset hkey) h).symm

/-- A name occurs at most once if it counts at most once among the keys. -/
theorem occurs_once_eq (r : Record) (name : String) :
    occursOnce r name = decide ((r.map (·.1)).count name ≤ 1) := by
  have hcount : (r.filter (·.1 == name)).length = (r.map (·.1)).count name := by
    rw [List.count_eq_countP, List.countP_map, List.countP_eq_length_filter]
    rfl
  rw [occursOnce, hcount]

/-- Among members with distinct keys, every name occurs at most once. -/
theorem occurs_once_of_nodup {r : Record} (h : (r.map (·.1)).Nodup) (name : String) :
    occursOnce r name = true := by
  rw [occurs_once_eq, decide_eq_true_eq]
  exact List.nodup_iff_count_le_one.1 h name

namespace Record

variable {r : Record}

/-- `r.Holds field` says the record `r` has the member that is written for `field`, or no member of
that name if the field is left out. -/
def Holds (r : Record) (field : String × Option Json) : Prop :=
  r.lookup field.1 = field.2

end Record

/-- Where the names of fields are distinct, their members hold each of them. -/
theorem members_holds (h : (fields.map (·.1)).Nodup) :
    ∀ field ∈ fields, (members fields).Holds field := by
  induction fields with
  | nil => simp
  | cons head rest ih =>
      obtain ⟨name, value⟩ := head
      obtain ⟨hfresh, hrest⟩ := List.nodup_cons.1 h
      intro field hfield
      rcases List.mem_cons.1 hfield with rfl | hmem
      · cases value with
        | none =>
            rw [Record.Holds, members_cons_none]
            exact lookup_members_eq_none hfresh
        | some value => exact List.lookup_cons_self
      · have hne : field.1 ≠ name := ne_of_mem_of_not_mem (List.mem_map_of_mem hmem) hfresh
        cases value with
        | none => exact ih hrest field hmem
        | some value =>
            rw [Record.Holds, members_cons_some, StringMap.lookup_cons_entry, if_neg hne]
            exact ih hrest field hmem

/-- The object of distinct fields is read as a record that holds each of them. -/
theorem record?_of_record (json : Json) (hjson : json = ofRecord fields)
    (h : (fields.map (·.1)).Nodup) (names : List String) :
    ∃ r : Record, json.record? names = some r ∧ fields.Forall r.Holds := by
  have hkeys : ((members fields).map (·.1)).Nodup := h.sublist keys_members_sublist
  have honce : names.all (occursOnce (members fields)) = true :=
    List.all_eq_true.2 fun name _ => occurs_once_of_nodup hkeys name
  refine ⟨members fields, ?_, List.forall_iff_forall_mem.2 (members_holds h)⟩
  rw [hjson]
  exact if_pos honce

/-- What is read from a record goes on with the record. -/
theorem bind_record? {β : Type} {json : Json} {names : List String} {r : Record}
    (h : json.record? names = some r) (read : Record → Option β) :
    (json.record? names >>= read) = read r := by
  rw [h]
  rfl

/-- A string is read as it is written. -/
theorem string?_string (value : String) : string? (.string value) = some value :=
  rfl

/-- A truth value is read as it is written. -/
theorem bool?_bool (value : Bool) : bool? (.bool value) = some value :=
  rfl

namespace Record.Holds

variable {r : Record} {read : Json → Option α} {write : α → Json}

/-- A field that was written is read by its reader. -/
theorem required {json : Json} {x : α} (h : r.Holds (field name json))
    (hread : read json = some x) : r.required name read = some x := by
  rw [Record.required, show r.lookup name = some json from h]
  exact hread

/-- A field with a default is read as it was written. -/
theorem default {json : Json} {x value : α} (h : r.Holds (field name json))
    (hread : read json = some x) : r.default name read value = some x := by
  rw [Record.default, show r.lookup name = some json from h]
  exact hread

/-- An optional field is read as it was written, if no value is written as null. -/
theorem optional {value : Option α} (h : r.Holds (optionalField name write value))
    (hread : ∀ x, read (write x) = some x) (hnull : ∀ x, write x ≠ null) :
    r.optional name read = some value := by
  rw [Record.optional, show r.lookup name = value.map write from h]
  cases value with
  | none => rfl
  | some x =>
      rw [Option.map_some]
      split
      · rename_i hx
        cases hx
      · rename_i hx
        exact absurd (Option.some.inj hx) (hnull x)
      · rename_i hx
        rw [← Option.some.inj hx, hread x]
        rfl

/-- A string is read as it was written. -/
theorem string {value : String} (h : r.Holds (field name (.string value))) :
    r.required name string? = some value :=
  h.required (string?_string value)

/-- An optional string is read as it was written. -/
theorem optional_string {value : Option String} (h : r.Holds (optionalField name .string value)) :
    r.optional name string? = some value :=
  h.optional string?_string fun _ => Json.noConfusion

/-- An optional truth value is read as it was written. -/
theorem optional_bool {value : Option Bool} (h : r.Holds (optionalField name .bool value)) :
    r.optional name bool? = some value :=
  h.optional bool?_bool fun _ => Json.noConfusion

/-- A flag is read as it was written, whether or not it was left out. -/
theorem flag {value : Bool} (h : r.Holds (flagField name value)) : r.flag name = some value := by
  rw [Record.flag, Record.default,
    show r.lookup name = if value then some (bool true) else none from h]
  cases value <;> rfl

/-- A flag that is always written is read as it was. -/
theorem flag_of_field {value : Bool} (h : r.Holds (field name (.bool value))) :
    r.flag name = some value :=
  h.default (bool?_bool value)

/-- A list is read as it was written. -/
theorem list {xs : List α} (h : r.Holds (field name (.ofList write xs)))
    (hread : ∀ x, read (write x) = some x) : r.list name read = some xs :=
  h.default (list?_of_list fun x _ => hread x)

/-- A list that is left out when it is empty is read as it was. -/
theorem list_of_list_field {xs : List α} (h : r.Holds (listField name write xs))
    (hread : ∀ x, read (write x) = some x) : r.list name read = some xs := by
  rw [Record.list, Record.default,
    show r.lookup name = if xs.isEmpty then none else some (ofList write xs) from h]
  cases xs with
  | nil => rfl
  | cons x xs => exact list?_of_list fun x _ => hread x

/-- A list of strings is read as it was written. -/
theorem strings {xs : List String} (h : r.Holds (field name (.ofStrings xs))) :
    r.list name string? = some xs :=
  h.list string?_string

end Record.Holds

/-- Reading a map inverts writing it where reading a value inverts writing it. -/
theorem map?_of_map {read : Json → Option α} {write : α → Json}
    (hread : ∀ x, read (write x) = some x) (m : StringMap α) :
    map? read (ofMap write m) = some m := by
  have hentries : (m.entries.map fun entry => (entry.1, write entry.2)).mapM
      (fun member => (read member.2).map (member.1, ·)) = some m.entries :=
    map_m_read_write fun entry _ => by rw [hread, Option.map_some]
  show ((m.entries.map fun entry => (entry.1, write entry.2)).mapM
      (fun member => (read member.2).map (member.1, ·))).map StringMap.ofList = some m
  rw [hentries, Option.map_some, StringMap.of_list_entries]

/-- A map that is left out when it is empty is read as it was. -/
theorem Record.Holds.map_of_map_field {r : Record} {read : Json → Option α} {write : α → Json}
    {m : StringMap α} (h : r.Holds (mapField name write m)) (hread : ∀ x, read (write x) = some x) :
    r.default name (map? read) StringMap.empty = some m := by
  rw [Record.default,
    show r.lookup name = if m.entries.isEmpty then none else some (ofMap write m) from h]
  cases hentries : m.entries with
  | nil => exact congrArg some (StringMap.ext_entries hentries.symm)
  | cons entry entries => exact map?_of_map hread m

/-! ### Readability -/

/-- Members are readable if each value is. -/
theorem readable_members_of_forall {members : List (String × Json)}
    (h : ∀ member ∈ members, member.2.readable = true) : readableMembers members = true := by
  induction members with
  | nil => rfl
  | cons head rest ih =>
      rw [readableMembers, h head List.mem_cons_self,
        ih fun member hmember => h member (List.mem_cons_of_mem _ hmember)]
      rfl

/-- Items are readable if each of them is. -/
theorem readable_items_of_forall {items : List Json} (h : ∀ item ∈ items, item.readable = true) :
    readableItems items = true := by
  induction items with
  | nil => rfl
  | cons head rest ih =>
      rw [readableItems, h head List.mem_cons_self,
        ih fun item hitem => h item (List.mem_cons_of_mem _ hitem)]
      rfl

/-- A written record is readable if the value of every field is. -/
theorem readable_of_record
    (h : fields.Forall fun field => ∀ value ∈ field.2, value.readable = true) :
    (ofRecord fields).readable = true := by
  refine readable_members_of_forall fun member hmember => ?_
  obtain ⟨⟨name, written⟩, hfield, hvalue⟩ := List.mem_filterMap.1 hmember
  obtain ⟨value, hwritten, rfl⟩ := Option.map_eq_some_iff.1 hvalue
  exact List.forall_iff_forall_mem.1 h _ hfield value hwritten

/-- An optional field is readable if every value is written readably. -/
theorem readable_optional_field {write : α → Json} (h : ∀ x, (write x).readable = true)
    (name : String) (x : Option α) :
    ∀ value ∈ (optionalField name write x).2, value.readable = true := by
  intro value hvalue
  obtain ⟨x, _, rfl⟩ := Option.map_eq_some_iff.1 hvalue
  exact h x

/-- A list of strings is readable. -/
theorem readable_of_strings (xs : List String) : (ofStrings xs).readable = true := by
  refine readable_items_of_forall fun item hitem => ?_
  obtain ⟨value, _, rfl⟩ := List.mem_map.1 hitem
  rfl

end MarkupSemantics.Json
