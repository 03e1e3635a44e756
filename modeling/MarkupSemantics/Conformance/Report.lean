/-!
# Reports

The results of checks and their sum. A check passes when it finds no violation; otherwise it has one
line for each, and its weight is chosen by the check.
-/

namespace MarkupSemantics.Conformance

/-- The weight of a result. -/
inductive Severity where
  | pass
  | warning
  | failure
  deriving DecidableEq, Repr

/-- `s.label` is the mark of a result of weight `s` in a text. -/
def Severity.label : Severity → String
  | .pass => "PASS"
  | .warning => "WARN"
  | .failure => "FAIL"

/-- The result of a check. -/
structure Result where
  /-- What made the check. -/
  validator : String
  /-- The result in one line. -/
  message : String
  /-- How much it weighs. -/
  severity : Severity
  /-- One line for each violation. -/
  details : List String
  deriving DecidableEq, Repr

namespace Result

/-- `passed validator message` is the result of a check that found nothing. -/
def passed (validator message : String) : Result :=
  ⟨validator, message, .pass, []⟩

/-- `ofViolations validator subject violations severity` is the result of a check of `subject` that
found `violations`; without any, it has passed. -/
def ofViolations (validator subject : String) (violations : List String) (severity : Severity) :
    Result :=
  if violations.isEmpty then passed validator (subject ++ ": ok")
  else
    let count := toString violations.length
    ⟨validator, subject ++ ": " ++ count ++ " violation(s)", severity, violations⟩

/-- `r.isFailure` says `r` has the weight of a failure. -/
def isFailure (r : Result) : Bool :=
  r.severity == .failure

/-- `r.text` is the text of `r`, with its details on lines of their own. -/
def text (r : Result) : String :=
  let head := "[" ++ r.severity.label ++ "] " ++ r.validator ++ ": " ++ r.message
  r.details.foldl (fun text detail => text ++ "\n    " ++ detail) head

end Result

/-- The results of several checks, in their order. -/
structure Report where
  /-- The results. -/
  results : List Result := []
  deriving DecidableEq, Repr

namespace Report

/-- `r.add result` adds a result at the end. -/
def add (r : Report) (result : Result) : Report :=
  ⟨r.results ++ [result]⟩

/-- `r.append other` adds the results of `other` at the end. -/
def append (r other : Report) : Report :=
  ⟨r.results ++ other.results⟩

/-- `r.failures` lists the failures. -/
def failures (r : Report) : List Result :=
  r.results.filter (·.isFailure)

/-- `r.failureCount` is the number of failures. -/
def failureCount (r : Report) : Nat :=
  r.failures.length

/-- `r.warningCount` is the number of warnings. -/
def warningCount (r : Report) : Nat :=
  r.results.countP (·.severity == .warning)

/-- `r.allPassed` says there is no failure. -/
def allPassed (r : Report) : Bool :=
  r.failureCount == 0

end Report

end MarkupSemantics.Conformance
