/-!
# JSON values

A JSON value as it stands in a text: the members of an object keep their order and may repeat a
key, and a number keeps its digits. `Json.unreadable` stands for a text that has JSON's grammar
and no value, such as a string with half of a surrogate pair; it may occur only where a reader
passes over it.
-/

namespace MarkupSemantics

/-- A JSON value. -/
inductive Json where
  | null
  | bool (value : Bool)
  | number (digits : String)
  | string (value : String)
  | array (items : List Json)
  | object (members : List (String × Json))
  | unreadable

namespace Json

instance : Inhabited Json :=
  ⟨null⟩

/-- `ofNat n` is the number `n`. -/
def ofNat (n : Nat) : Json :=
  number (toString n)

mutual
/-- `readable json` says every part of `json` has a value. -/
def readable : Json → Bool
  | unreadable => false
  | array items => readableItems items
  | object members => readableMembers members
  | _ => true

/-- `readableItems items` says every part of `items` has a value. -/
def readableItems : List Json → Bool
  | [] => true
  | item :: items => readable item && readableItems items

/-- `readableMembers members` says every part of `members` has a value. -/
def readableMembers : List (String × Json) → Bool
  | [] => true
  | (_, value) :: members => readable value && readableMembers members
end

/-- `json.string?` is the string that `json` is. -/
def string? : Json → Option String
  | string value => some value
  | _ => none

/-- `json.bool?` is the truth value that `json` is. -/
def bool? : Json → Option Bool
  | bool value => some value
  | _ => none

/-- `list? read json` reads every item of an array. -/
def list? {α : Type} (read : Json → Option α) : Json → Option (List α)
  | array items => items.mapM read
  | _ => none

/-- `strings? json` reads an array of strings. -/
def strings? : Json → Option (List String) :=
  list? string?

/-- `ofList write xs` is the array of the items of `xs`. -/
def ofList {α : Type} (write : α → Json) (xs : List α) : Json :=
  array (xs.map write)

/-- `ofStrings xs` is the array of the strings `xs`. -/
def ofStrings : List String → Json :=
  ofList string

/-- Reading the items of a list inverts writing them where it does so for each of them. -/
theorem map_m_read_write {α β : Type} {read : β → Option α} {write : α → β} {xs : List α}
    (h : ∀ x ∈ xs, read (write x) = some x) : (xs.map write).mapM read = some xs := by
  induction xs with
  | nil => rfl
  | cons x xs ih =>
    simp [h x List.mem_cons_self, ih fun y hy => h y (List.mem_cons_of_mem _ hy)]

/-- Reading a list inverts writing it where reading an item inverts writing it. -/
theorem list?_of_list {α : Type} {read : Json → Option α} {write : α → Json} {xs : List α}
    (h : ∀ x ∈ xs, read (write x) = some x) : list? read (ofList write xs) = some xs :=
  map_m_read_write h

/-- A list of strings is read back as it is written. -/
@[simp] theorem strings?_of_strings (xs : List String) : strings? (ofStrings xs) = some xs :=
  list?_of_list fun _ _ => rfl

end Json

end MarkupSemantics
