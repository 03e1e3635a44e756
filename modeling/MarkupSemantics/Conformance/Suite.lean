import MarkupSemantics.Conformance.Elements
import MarkupSemantics.Conformance.Vocabulary

/-!
# All checks

The checks of the elements, of the vocabulary, and of the written form of the document, which must
read back as the same document.
-/

namespace MarkupSemantics.Conformance

/-- `reloadViolations d` lists what is lost when the document `d` is written and read back. The line
about a document that does not parse back gives no reason, the error of the reader, since it is
never reached: every document reads back as itself. -/
def reloadViolations (d : Document) : List String :=
  match Document.ofJson? d.toJson with
  | none => ["document does not parse back"]
  | some reloaded =>
    (if reloaded = d then [] else ["reloaded document differs from the original"]) ++
      match reloaded.defect? with
      | none => []
      | some defect => ["reloaded document is invalid: " ++ defect.message]

/-- `documentReport r` is the report on the written form of the document of `r`. -/
def documentReport (r : Repository) : Report where
  results :=
    [.ofViolations "serialization/json" "round trip" (reloadViolations r.document) .failure]

/-- `report r` is the report of all checks of `r`. -/
def report (r : Repository) : Report :=
  ((elementReport r).append (vocabularyReport r)).append (documentReport r)

end MarkupSemantics.Conformance
