import MarkupSemantics.Json.Token

/-!
# Reading a JSON text

The tokens of a text are put together by a machine that holds the arrays and objects that are still
open. A text is read when the machine ends with one value and nothing open, so nothing but white
space may follow the value.
-/

namespace MarkupSemantics.Json

/-- An array or an object that is still open, with the parts before the current one in reverse. -/
inductive Frame where
  | array (done : List Json)
  | object (done : List (Option String × Json)) (key : Option String)

/-- What the machine waits for, inside the open frames. -/
inductive Reading where
  | value (frames : List Frame)
  | firstItem (frames : List Frame)
  | firstKey (frames : List Frame)
  | key (done : List (Option String × Json)) (frames : List Frame)
  | colon (done : List (Option String × Json)) (key : Option String) (frames : List Frame)
  | complete (value : Json) (frames : List Frame)

/-- `ofMembers members` is the object of `members`, which has no value if one of its keys has
none. -/
def ofMembers (members : List (Option String × Json)) : Json :=
  match members.mapM fun (key, value) => key.map (·, value) with
  | some members => object members
  | none => unreadable

/-- `startValue frames token` reads the first token of a value inside `frames`. -/
def startValue (frames : List Frame) : Token → Option Reading
  | .scalar value => some (.complete value frames)
  | .text (some content) => some (.complete (string content) frames)
  | .text none => some (.complete unreadable frames)
  | .beginArray => some (.firstItem frames)
  | .beginObject => some (.firstKey frames)
  | _ => none

/-- `step state token` is the state of the machine after one more token. -/
def step : Reading → Token → Option Reading
  | .value frames, token => startValue frames token
  | .firstItem frames, .endArray => some (.complete (array []) frames)
  | .firstItem frames, token => startValue (.array [] :: frames) token
  | .firstKey frames, .endObject => some (.complete (object []) frames)
  | .firstKey frames, .text key => some (.colon [] key frames)
  | .key done frames, .text key => some (.colon done key frames)
  | .colon done key frames, .colon => some (.value (.object done key :: frames))
  | .complete value (.array done :: frames), .comma =>
    some (.value (.array (value :: done) :: frames))
  | .complete value (.array done :: frames), .endArray =>
    some (.complete (array (value :: done).reverse) frames)
  | .complete value (.object done key :: frames), .comma =>
    some (.key ((key, value) :: done) frames)
  | .complete value (.object done key :: frames), .endObject =>
    some (.complete (ofMembers ((key, value) :: done).reverse) frames)
  | _, _ => none

/-- `ofTokens? tokens` is the value that `tokens` write. -/
def ofTokens? (tokens : List Token) : Option Json :=
  match tokens.foldlM step (.value []) with
  | some (.complete value []) => some value
  | _ => none

/-- `ofText? text` is the value that the JSON text `text` writes. -/
def ofText? (text : String) : Option Json :=
  (tokens? text.toList).bind ofTokens?

end MarkupSemantics.Json
