import MarkupSemantics.Conformance.Suite
import MarkupSemantics.CustomElement
import MarkupSemantics.Document.Edit
import MarkupSemantics.Main
import MarkupSemantics.Pattern
import MarkupSemantics.Proofs.Alternatives
import MarkupSemantics.Proofs.Ancestry
import MarkupSemantics.Proofs.AttributeResolution
import MarkupSemantics.Proofs.ConditionMessage
import MarkupSemantics.Proofs.Conformity
import MarkupSemantics.Proofs.CustomNames
import MarkupSemantics.Proofs.DocumentEdits
import MarkupSemantics.Proofs.EffectiveCondition
import MarkupSemantics.Proofs.ElementSettings
import MarkupSemantics.Proofs.FirstValues
import MarkupSemantics.Proofs.Fragments
import MarkupSemantics.Proofs.NameIndex
import MarkupSemantics.Proofs.NameShapes
import MarkupSemantics.Proofs.NumberValues
import MarkupSemantics.Proofs.PatternForms
import MarkupSemantics.Proofs.PrintedDocument
import MarkupSemantics.Proofs.QualifiedNames
import MarkupSemantics.Proofs.RecordedChecks
import MarkupSemantics.Proofs.References
import MarkupSemantics.Proofs.Rejection
import MarkupSemantics.Proofs.Reordering
import MarkupSemantics.Proofs.RepeatedAttributes
import MarkupSemantics.Proofs.Replacement
import MarkupSemantics.Proofs.RequestedRole
import MarkupSemantics.Proofs.RoleVerdict
import MarkupSemantics.Proofs.RoleWalk
import MarkupSemantics.Proofs.SelectorReading
import MarkupSemantics.Proofs.SharedAttributes
import MarkupSemantics.Proofs.TokenLists
import MarkupSemantics.Rules.ElementRole
import MarkupSemantics.Rules.PropertyValue
import MarkupSemantics.Rules.RoleAncestry
import MarkupSemantics.Rules.Validation
import MarkupSemantics.Settings
import MarkupSemantics.Tree.Element
