import Mathlib.Logic.Relation
import MarkupSemantics.Proofs.Record

/-!
# Edits that reading does not notice

A `Shape` says what a JSON value is read as, and `Edit shape` changes one place of a value of that
shape, however deep: it adds a member that no field has the name of, or exchanges two ways to leave
something out. A reader that passes over such edits is `Shape.Unseen`. The lemmas here show it for
lists, maps and records from the same property of their parts; `Unseen.record` is the one for
records. A value need not be of its shape for this: where it cannot be read, it cannot be read after
the edit either.
-/

namespace MarkupSemantics.Json

/-- A field of a record. -/
structure Field (σ : Type) where
  /-- The name of the field. -/
  name : String
  /-- Whether the field may be null, which is the same as absent. -/
  isOptional : Bool
  /-- What its value is read as. -/
  content : σ

/-- `Field.plain name content` is a field for which null is not the same as absent. -/
def Field.plain {σ : Type} (name : String) (content : σ) : Field σ :=
  ⟨name, false, content⟩

/-- `Field.optional name content` is a field that may be null or absent. -/
def Field.optional {σ : Type} (name : String) (content : σ) : Field σ :=
  ⟨name, true, content⟩

/-- What a value is read as. -/
inductive Shape where
  /-- A value that is read as a whole. -/
  | whole
  /-- A string, or one of several ways to say that there is none. -/
  | stringOrNothing
  /-- A list. -/
  | list (item : Shape)
  /-- A map. -/
  | map (value : Shape)
  /-- A record. -/
  | record (fields : List (Field Shape))

/-- The values that say that there is no string. -/
def nothings : List Json :=
  [null, bool true, bool false]

/-- `Edit shape json json'` says `json'` is `json`, read as `shape`, with one place changed. -/
inductive Edit : Shape → Json → Json → Prop where
  /-- One way to say that there is no string instead of another. -/
  | exchange {value value' : Json} :
      value ∈ nothings → value' ∈ nothings → Edit .stringOrNothing value value'
  /-- An edit inside an item of a list. -/
  | item {shape : Shape} {value value' : Json} (before after : List Json) :
      Edit shape value value' →
      Edit (.list shape) (array (before ++ value :: after)) (array (before ++ value' :: after))
  /-- An edit inside a value of a map. -/
  | entry {shape : Shape} {value value' : Json} (key : String)
      (before after : List (String × Json)) :
      Edit shape value value' →
      Edit (.map shape) (object (before ++ (key, value) :: after))
        (object (before ++ (key, value') :: after))
  /-- A member of an object that no field has the name of. It has a value throughout, since what has
  none is no JSON value. -/
  | extra {fields : List (Field Shape)} {key : String} {value : Json}
      (before after : List (String × Json)) :
      key ∉ fields.map (·.name) → value.readable = true →
      Edit (.record fields) (object (before ++ after)) (object (before ++ (key, value) :: after))
  /-- An optional field that is left out instead of null. -/
  | absent {fields : List (Field Shape)} (field : Field Shape)
      (before after : List (String × Json)) :
      field ∈ fields → field.isOptional = true → field.name ∉ (before ++ after).map (·.1) →
      Edit (.record fields) (object (before ++ (field.name, null) :: after))
        (object (before ++ after))
  /-- An edit inside a field of an object. -/
  | member {fields : List (Field Shape)} {value value' : Json} (field : Field Shape)
      (before after : List (String × Json)) :
      field ∈ fields → Edit field.content value value' →
      Edit (.record fields) (object (before ++ (field.name, value) :: after))
        (object (before ++ (field.name, value') :: after))
  /-- An optional field that an array ends before, instead of null. -/
  | shorter {fields : List (Field Shape)} (field : Field Shape) (items : List Json) :
      fields[items.length]? = some field → field.isOptional = true →
      Edit (.record fields) (array (items ++ [null])) (array items)
  /-- An edit inside a field of an array. -/
  | position {fields : List (Field Shape)} {value value' : Json} (field : Field Shape)
      (before after : List Json) :
      fields[before.length]? = some field → Edit field.content value value' →
      Edit (.record fields) (array (before ++ value :: after)) (array (before ++ value' :: after))

/-- `shape.Unseen read` says `read` gives the same before and after every edit of `shape`, and the
same failure where it fails. -/
def Shape.Unseen {α : Type} (shape : Shape) (read : Json → Option α) : Prop :=
  ∀ json json', Edit shape json json' → read json = read json'

/-! ### What edits keep -/

/-- Items are readable exactly if those of both parts are. -/
theorem readable_items_append (xs ys : List Json) :
    readableItems (xs ++ ys) = (readableItems xs && readableItems ys) := by
  induction xs with
  | nil => rfl
  | cons x xs ih => rw [List.cons_append, readableItems, readableItems, ih, Bool.and_assoc]

/-- Members are readable exactly if those of both parts are. -/
theorem readable_members_append (xs ys : List (String × Json)) :
    readableMembers (xs ++ ys) = (readableMembers xs && readableMembers ys) := by
  induction xs with
  | nil => rfl
  | cons x xs ih => rw [List.cons_append, readableMembers, readableMembers, ih, Bool.and_assoc]

/-- What stands for a missing string is readable. -/
theorem readable_of_mem_nothings {value : Json} (h : value ∈ nothings) :
    value.readable = true := by
  rcases List.mem_cons.1 h with rfl | h
  · rfl
  · rcases List.mem_pair.1 h with rfl | rfl <;> rfl

namespace Edit

variable {shape : Shape} {json json' : Json}

/-- An edit neither gives a value to what has none nor takes it. -/
theorem readable_eq (h : Edit shape json json') : json.readable = json'.readable := by
  induction h with
  | exchange hvalue hvalue' =>
      rw [readable_of_mem_nothings hvalue, readable_of_mem_nothings hvalue']
  | item before after _ ih | position _ before after _ _ ih =>
      simp only [readable, readable_items_append, readableItems, ih]
  | entry key before after _ ih | member _ before after _ _ ih =>
      simp only [readable, readable_members_append, readableMembers, ih]
  | extra before after _ hvalue =>
      simp only [readable, readable_members_append, readableMembers, hvalue, Bool.true_and]
  | absent _ before after => simp [readable, readable_members_append, readableMembers]
  | shorter _ items => simp [readable, readable_items_append, readableItems]

/-- Where null does not stand for a missing string, it is not edited. -/
theorem ne_null (h : Edit shape json json') (hshape : shape ≠ .stringOrNothing) :
    json ≠ null ∧ json' ≠ null := by
  cases h with
  | exchange => exact absurd rfl hshape
  | _ => exact ⟨Json.noConfusion, Json.noConfusion⟩

/-- A string is not read as a record. -/
theorem ne_string {fields : List (Field Shape)} (h : Edit (.record fields) json json')
    (text : String) : json ≠ string text ∧ json' ≠ string text := by
  cases h <;> exact ⟨Json.noConfusion, Json.noConfusion⟩

end Edit

/-! ### Lists and maps -/

namespace Shape.Unseen

variable {α : Type} {shape : Shape} {read : Json → Option α}

/-- A value that is read as a whole is not edited. -/
theorem whole (read : Json → Option α) : Shape.whole.Unseen read :=
  fun _ _ h => nomatch h

/-- The reader of a list passes over the edits of its items if the reader of an item does. -/
theorem list (h : shape.Unseen read) : (Shape.list shape).Unseen (list? read) := by
  intro json json' hedit
  cases hedit with
  | item before after hvalue =>
      simp only [list?, List.mapM_append, List.mapM_cons, h _ _ hvalue]

/-- The reader of a map passes over the edits of its values if the reader of a value does. -/
theorem map (h : shape.Unseen read) : (Shape.map shape).Unseen (map? read) := by
  intro json json' hedit
  cases hedit with
  | entry key before after hvalue =>
      simp only [map?, List.mapM_append, List.mapM_cons, h _ _ hvalue]

end Shape.Unseen

/-! ### Fields -/

/-- `Alike field found found'` says two look-ups of `field` found the same up to an edit. -/
inductive Field.Alike (field : Field Shape) : Option Json → Option Json → Prop where
  | same (found : Option Json) : field.Alike found found
  | emptied : field.isOptional = true → field.Alike (some null) none
  | edited {value value' : Json} :
      Edit field.content value value' → field.Alike (some value) (some value')

namespace Record

variable {α : Type} {r r' : Record} {name : String} {content : Shape} {read : Json → Option α}

/-- A field with a default is read where it is found and is the default where it is not. -/
theorem default_eq_elim (r : Record) (name : String) (read : Json → Option α) (value : α) :
    r.default name read value = (r.lookup name).elim (some value) read := by
  rw [Record.default]
  cases r.lookup name with
  | none => rfl
  | some found => rfl

/-- `Keeps r r' field` says `field` has the same value in `r` and `r'` up to an edit. -/
def Keeps (r r' : Record) (field : Field Shape) : Prop :=
  field.Alike (r.lookup field.name) (r'.lookup field.name)

namespace Keeps

/-- What depends on the value of a field, but not on an edit of it, is the same for both records. -/
theorem congr {β : Type} {field : Field Shape} (h : Keeps r r' field) (f : Option Json → β)
    (hempty : field.isOptional = true → f (some null) = f none)
    (hedit : ∀ value value', Edit field.content value value' → f (some value) = f (some value')) :
    f (r.lookup field.name) = f (r'.lookup field.name) := by
  unfold Keeps at h
  generalize r.lookup field.name = found, r'.lookup field.name = found' at h ⊢
  cases h with
  | same => rfl
  | emptied hoptional => exact hempty hoptional
  | edited h => exact hedit _ _ h

/-- A field that must be present is read the same from both records. -/
theorem required (h : Keeps r r' (.plain name content)) (hread : content.Unseen read) :
    r.required name read = r'.required name read :=
  h.congr (fun found => found.bind read) nofun hread

/-- A field with a default is read the same from both records. -/
theorem default (h : Keeps r r' (.plain name content)) (hread : content.Unseen read) (value : α) :
    r.default name read value = r'.default name read value := by
  rw [default_eq_elim, default_eq_elim]
  exact h.congr (fun found => found.elim (some value) read) nofun hread

/-- A field whose absence means what null is read as may be null or absent. -/
theorem default_of_null (h : Keeps r r' (.optional name content)) (hread : content.Unseen read)
    {value : α} (hnull : read null = some value) :
    r.default name read value = r'.default name read value := by
  rw [default_eq_elim, default_eq_elim]
  exact h.congr (fun found => found.elim (some value) read) (fun _ => hnull) hread

/-- A list that may be absent is read the same from both records. -/
theorem list (h : Keeps r r' (.plain name (.list content))) (hread : content.Unseen read) :
    r.list name read = r'.list name read :=
  h.default hread.list []

/-- A list of whole items is read the same from both records. -/
theorem list_whole (h : Keeps r r' (.plain name .whole)) : r.list name read = r'.list name read :=
  h.default (.whole (list? read)) []

/-- A flag is read the same from both records. -/
theorem flag (h : Keeps r r' (.plain name .whole)) : r.flag name = r'.flag name :=
  h.default (.whole bool?) false

/-- An optional field is read the same from both records. -/
theorem optional (h : Keeps r r' (.optional name content)) (hcontent : content ≠ .stringOrNothing)
    (hread : content.Unseen read) : r.optional name read = r'.optional name read := by
  have halike : Field.Alike (.optional name content) (r.lookup name) (r'.lookup name) := h
  unfold Record.optional
  generalize r.lookup name = found, r'.lookup name = found' at halike ⊢
  cases halike with
  | same => rfl
  | emptied => rfl
  | edited hedit =>
      obtain ⟨hnull, hnull'⟩ := hedit.ne_null hcontent
      simp only [hread _ _ hedit]

end Keeps

end Record

/-! ### Records -/

section Records

open Record (Keeps)

variable {fields : List (Field Shape)} {field : Field Shape} {value value' : Json}

/-- A field that is found the same in both records is kept. -/
theorem Record.Keeps.of_lookup_eq {r r' : Record} (h : r.lookup field.name = r'.lookup field.name) :
    Keeps r r' field := by
  unfold Keeps
  rw [h]
  exact .same _

/-- A member is passed over by the look-up of another name. -/
theorem lookup_append_cons_of_ne (before after : Record) {key name : String} (h : name ≠ key) :
    (before ++ (key, value) :: after).lookup name = (before ++ after).lookup name := by
  rw [List.lookup_append, List.lookup_append, StringMap.lookup_cons_entry, if_neg h]

/-- A member that is no field leaves every field as it is. -/
theorem keeps_of_extra {key : String} (before after : Record) (hkey : key ∉ fields.map (·.name)) :
    ∀ field ∈ fields, Keeps (before ++ after) (before ++ (key, value) :: after) field := by
  intro field hfield
  have hne : field.name ≠ key := ne_of_mem_of_not_mem (List.mem_map_of_mem hfield) hkey
  exact .of_lookup_eq (lookup_append_cons_of_ne before after hne).symm

/-- An optional field that is absent may as well be null. -/
theorem keeps_of_absent (hdistinct : (fields.map (·.name)).Nodup) (hfield : field ∈ fields)
    (hoptional : field.isOptional = true) (before after : Record)
    (habsent : field.name ∉ (before ++ after).map (·.1)) :
    ∀ other ∈ fields,
      Keeps (before ++ (field.name, null) :: after) (before ++ after) other := by
  intro other hother
  by_cases hname : other.name = field.name
  · obtain rfl := List.inj_on_of_nodup_map hdistinct hother hfield hname
    have hnone : (before ++ after).lookup other.name = none := by
      refine List.lookup_eq_none_iff.2 fun member hmember => ?_
      simpa using (ne_of_mem_of_not_mem (List.mem_map_of_mem hmember) habsent).symm
    have hbefore : before.lookup other.name = none := by
      rw [List.lookup_append, Option.or_eq_none_iff] at hnone
      exact hnone.1
    unfold Keeps
    rw [hnone, List.lookup_append, hbefore, List.lookup_cons_self]
    exact .emptied hoptional
  · exact .of_lookup_eq (lookup_append_cons_of_ne before after hname)

/-- A member with an edited value leaves every field as it is, up to the edit. -/
theorem keeps_of_member (hdistinct : (fields.map (·.name)).Nodup) (hfield : field ∈ fields)
    (hedit : Edit field.content value value') (before after : Record) :
    ∀ other ∈ fields,
      Keeps (before ++ (field.name, value) :: after) (before ++ (field.name, value') :: after)
        other := by
  intro other hother
  by_cases hname : other.name = field.name
  · obtain rfl := List.inj_on_of_nodup_map hdistinct hother hfield hname
    unfold Keeps
    rw [List.lookup_append, List.lookup_append, List.lookup_cons_self, List.lookup_cons_self]
    -- an earlier member of the same name hides the edited one
    cases before.lookup other.name with
    | none => exact .edited hedit
    | some found => exact .same _
  · refine .of_lookup_eq ?_
    rw [lookup_append_cons_of_ne before after hname, lookup_append_cons_of_ne before after hname]

/-- Two readings of a record fail both, or keep every field. -/
inductive ReadAlike (fields : List (Field Shape)) : Option Record → Option Record → Prop where
  | neither : ReadAlike fields none none
  | both {r r' : Record} :
      (∀ field ∈ fields, Keeps r r' field) → ReadAlike fields (some r) (some r')

/-- Objects in which the same fields occur at most once are both read as records or both not. -/
theorem read_alike_of_object {r r' : Record}
    (honce : ∀ field ∈ fields, occursOnce r field.name = occursOnce r' field.name)
    (hkeeps : ∀ field ∈ fields, Keeps r r' field) :
    ReadAlike fields ((object r).record? (fields.map (·.name)))
      ((object r').record? (fields.map (·.name))) := by
  have hsame : (fields.map (·.name)).all (occursOnce r) =
      (fields.map (·.name)).all (occursOnce r') := by
    rw [List.all_map, List.all_map, Bool.eq_iff_iff, List.all_eq_true, List.all_eq_true]
    exact forall₂_congr fun field hfield => by rw [Function.comp, honce field hfield]; rfl
  rw [record?, record?, hsame]
  split
  · exact .both hkeeps
  · exact .neither

/-- The fields before the place where an array ends, paired with its items. -/
theorem exists_zip_append (items : List Json) (h : fields[items.length]? = some field) :
    ∃ (before : Record) (later : List String),
      fields.map (·.name) = before.map (·.1) ++ field.name :: later ∧
      ∀ rest, (fields.map (·.name)).zip (items ++ rest) =
        before ++ (field.name :: later).zip rest := by
  obtain ⟨hlt, rfl⟩ := List.getElem?_eq_some_iff.1 h
  have hsplit : fields = fields.take items.length ++
      fields[items.length] :: fields.drop (items.length + 1) := by
    rw [List.getElem_cons_drop, List.take_append_drop]
  have hnames := congrArg (List.map (·.name)) hsplit
  rw [List.map_append, List.map_cons] at hnames
  have hlength : ((fields.take items.length).map (·.name)).length = items.length := by
    rw [List.length_map, List.length_take]
    omega
  have hkeys : (((fields.take items.length).map (·.name)).zip items).map (·.1) =
      (fields.take items.length).map (·.name) :=
    List.map_fst_zip (Nat.le_of_eq hlength)
  refine ⟨((fields.take items.length).map (·.name)).zip items,
    (fields.drop (items.length + 1)).map (·.name), ?_, fun rest => ?_⟩
  · rw [hkeys]
    exact hnames
  · rw [hnames, List.zip_append hlength]

/-- Arrays that are both short enough or both too long are both read as records or both not. -/
theorem read_alike_of_array {items items' : List Json}
    (hlength : items.length ≤ (fields.map (·.name)).length ↔
      items'.length ≤ (fields.map (·.name)).length)
    (hkeeps : ∀ field ∈ fields, Keeps ((fields.map (·.name)).zip items)
      ((fields.map (·.name)).zip items') field) :
    ReadAlike fields ((array items).record? (fields.map (·.name)))
      ((array items').record? (fields.map (·.name))) := by
  rw [record?, record?]
  by_cases h : items.length ≤ (fields.map (·.name)).length
  · rw [if_pos h, if_pos (hlength.1 h)]
    exact .both hkeeps
  · rw [if_neg h, if_neg (hlength.not.1 h)]
    exact .neither

/-- A member does not count among those with another key. -/
theorem occurs_once_append_cons_of_ne (before after : Record) {key name : String}
    (h : name ≠ key) :
    occursOnce (before ++ (key, value) :: after) name = occursOnce (before ++ after) name := by
  rw [occurs_once_eq, occurs_once_eq, List.map_append, List.map_append, List.map_cons,
    List.count_append, List.count_append, List.count_cons_of_ne h.symm]

/-- A name that is no key occurs at most once if it is added as one. -/
theorem occurs_once_append_cons_self (before after : Record) {key : String}
    (h : key ∉ (before ++ after).map (·.1)) :
    occursOnce (before ++ (key, value) :: after) key = true ∧
      occursOnce (before ++ after) key = true := by
  have hcount := List.count_eq_zero.2 h
  rw [List.map_append, List.count_append] at hcount
  rw [occurs_once_eq, occurs_once_eq, List.map_append, List.map_append, List.map_cons,
    List.count_append, List.count_append, List.count_cons_self, decide_eq_true_eq,
    decide_eq_true_eq]
  omega

/-- An edit of a record keeps every field, or it is no record before and after the edit. -/
theorem read_alike_of_edit {json json' : Json} (hdistinct : (fields.map (·.name)).Nodup)
    (h : Edit (.record fields) json json') :
    ReadAlike fields (json.record? (fields.map (·.name)))
      (json'.record? (fields.map (·.name))) := by
  cases h with
  | extra before after hkey =>
      refine read_alike_of_object (fun field hfield => ?_) (keeps_of_extra before after hkey)
      have hne := ne_of_mem_of_not_mem (List.mem_map_of_mem hfield) hkey
      exact (occurs_once_append_cons_of_ne before after hne).symm
  | absent field before after hfield hoptional habsent =>
      refine read_alike_of_object (fun other hother => ?_)
        (keeps_of_absent hdistinct hfield hoptional before after habsent)
      by_cases hname : other.name = field.name
      · rw [hname]
        obtain ⟨hbefore, hafter⟩ := occurs_once_append_cons_self before after habsent
        rw [hbefore, hafter]
      · exact occurs_once_append_cons_of_ne before after hname
  | member field before after hfield hedit =>
      refine read_alike_of_object (fun other hother => ?_)
        (keeps_of_member hdistinct hfield hedit before after)
      rw [occurs_once_eq, occurs_once_eq, List.map_append, List.map_append, List.map_cons,
        List.map_cons]
  | shorter field items hfield hoptional =>
      -- paired with the names, the items before the field are members before it
      obtain ⟨before, later, hnames, hzip⟩ := exists_zip_append items hfield
      have hnull : (fields.map (·.name)).zip (items ++ [null]) =
          before ++ [(field.name, null)] := by
        rw [hzip, List.zip_cons_cons, List.zip_nil_right]
      have hnil : (fields.map (·.name)).zip items = before ++ [] := by
        rw [← List.append_nil items, hzip, List.zip_nil_right]
      have hlt : items.length < (fields.map (·.name)).length := by
        rw [List.length_map]
        exact (List.getElem?_eq_some_iff.1 hfield).1
      refine read_alike_of_array ?_ ?_
      · rw [List.length_append, List.length_singleton]
        omega
      · rw [hnull, hnil]
        refine keeps_of_absent hdistinct (List.mem_of_getElem? hfield) hoptional before [] ?_
        rw [hnames, List.nodup_middle, List.nodup_cons] at hdistinct
        rw [List.append_nil]
        exact fun hmem => hdistinct.1 (List.mem_append_left _ hmem)
  | position field before after hfield hedit =>
      obtain ⟨pairs, later, _, hzip⟩ := exists_zip_append before hfield
      refine read_alike_of_array ?_ ?_
      · rw [List.length_append, List.length_append, List.length_cons, List.length_cons]
      · rw [hzip, hzip]
        exact keeps_of_member hdistinct (List.mem_of_getElem? hfield) hedit pairs _

/-- A reader of records passes over the edits of a record if its result depends on the fields only
up to edits. -/
theorem Shape.Unseen.record {α : Type} {names : List String} {read : Record → Option α}
    (hnames : fields.map (·.name) = names) (hdistinct : names.Nodup)
    (hread : ∀ r r', fields.Forall (Keeps r r') → read r = read r') :
    (Shape.record fields).Unseen fun json => json.record? names >>= read := by
  subst hnames
  intro json json' hedit
  have halike := read_alike_of_edit hdistinct hedit
  show (json.record? _).bind read = (json'.record? _).bind read
  generalize json.record? _ = found, json'.record? _ = found' at halike ⊢
  cases halike with
  | neither => rfl
  | both hkeeps => exact hread _ _ (List.forall_iff_forall_mem.2 hkeeps)

end Records

/-- What a reader gives stays the same through any number of edits, made or undone. -/
theorem Shape.Unseen.eq_of_edits {α : Type} {shape : Shape} {read : Json → Option α}
    (h : shape.Unseen read) {json json' : Json} (hedits : Relation.EqvGen (Edit shape) json json') :
    read json = read json' := by
  induction hedits with
  | rel json json' hedit => exact h json json' hedit
  | refl json => rfl
  | symm _ _ _ ih => exact ih.symm
  | trans _ _ _ _ _ ih ih' => exact ih.trans ih'

end MarkupSemantics.Json
