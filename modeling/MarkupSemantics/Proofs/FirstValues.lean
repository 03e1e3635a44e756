import Mathlib.Logic.Relation
import MarkupSemantics.Proofs.Acceptance
import MarkupSemantics.Rules.ElementRole
import MarkupSemantics.Rules.Validation
import MarkupSemantics.Tree.Element

/-!
# What the attributes of an element amount to

The rules see the attributes of an element only through look-ups: elements of which every look-up
gives the same value, and elements around them of which the same is true, get the same answers.
The first half says which queries of an element the rules make (`Alike`), the second half follows a
look-up through selectors with negations and through changes of an attribute list. The main
statement is `same_answers_of_first_values`.
-/

namespace MarkupSemantics

/-! ### Elements that the rules cannot tell apart -/

/-- `Alike e f` says `e` and `f` have the same name, and every look-up and every selector gives the
same for both. -/
structure MarkupElement.Alike {ε : Type} [MarkupElement ε] (e f : ε) : Prop where
  /-- They have the same name. -/
  name : MarkupElement.name e = MarkupElement.name f
  /-- Attributes may be added to both or to none. -/
  hasSpread : MarkupElement.hasSpread e = MarkupElement.hasSpread f
  /-- They have the same attributes. -/
  attribute? : ∀ attr, MarkupElement.attribute? e attr = MarkupElement.attribute? f attr
  /-- They match the same selectors. -/
  satisfies : ∀ selector, MarkupElement.satisfies e selector = MarkupElement.satisfies f selector
  /-- They lie in elements that match the same selectors. -/
  liesIn : ∀ selector, MarkupElement.liesIn e selector = MarkupElement.liesIn f selector

namespace MarkupElement.Alike

variable {ε : Type} [MarkupElement ε] {e f : ε} {r : Repository}

/-- Alike elements meet the same conditions. -/
theorem is_met (h : Alike e f) (condition : Option Condition) :
    Condition.isMet condition e = Condition.isMet condition f := by
  cases condition with
  | none => rfl
  | some c =>
      show (c.ownHolds e || c.ancestorHolds e) = (c.ownHolds f || c.ancestorHolds f)
      simp only [Condition.ownHolds, Condition.ancestorHolds, h.satisfies, h.liesIn]

/-- Of several cases the same one applies to alike elements. -/
theorem select (h : Alike e f) {α : Type} (cases : List (Case α)) :
    Case.select cases e = Case.select cases f := by
  simp only [Case.select, h.satisfies]

/-- Alike elements have the same definition. -/
theorem definition? (h : Alike e f) : r.definition? e = r.definition? f := by
  rw [Repository.definition?, Repository.definition?, h.name]

/-- Alike elements have the same role on their own. -/
theorem implicit_role? (h : Alike e f) : r.implicitRole? e = r.implicitRole? f := by
  simp only [Repository.implicitRole?, ImplicitRole.select?, h.definition?, h.select]

/-- Alike elements ask for the same role. -/
theorem computed_role? (h : Alike e f) : r.computedRole? e = r.computedRole? f := by
  rw [Repository.computedRole?, Repository.computedRole?, h.attribute?, h.implicit_role?]

/-- Alike elements may ask for the same roles. -/
theorem permission (h : Alike e f) : r.permission e = r.permission f := by
  simp only [Repository.permission, h.definition?, h.select, h.implicit_role?]

/-- The same verdict is given on the roles of alike elements. -/
theorem verified_role (h : Alike e f) (version : Aria.Version) :
    r.verifiedRole version e = r.verifiedRole version f := by
  simp only [Repository.verifiedRole, h.computed_role?, h.permission, h.name]

/-- A check of an attribute gives alike elements the same answer. -/
theorem check (h : Alike e f) {m : Type → Type} [Monad m] (checker : Checker m)
    (translate : Translator) (a : WrittenAttribute) (definitions : List AttributeDef) :
    a.check checker translate e definitions = a.check checker translate f definitions := by
  simp only [WrittenAttribute.check, WrittenAttribute.conditionProblem?, h.hasSpread, h.is_met]

/-- An attribute gets the same answer on alike elements. -/
theorem check_attribute (h : Alike e f) {m : Type → Type} [Monad m] (checker : Checker m)
    (translate : Translator) (a : WrittenAttribute) :
    r.checkAttribute checker translate a e = r.checkAttribute checker translate a f := by
  rw [Repository.checkAttribute, Repository.checkAttribute, h.name, h.check]

end MarkupElement.Alike

namespace Tree

/-! ### Nodes with the same first values -/

/-- `n.Agrees m` says `n` and `m` have the same name and kind, and every name of an attribute gives
the same first value, up to the case of ASCII letters in names. -/
structure Node.Agrees (n m : Node) : Prop where
  /-- They have the same name. -/
  name : n.name = m.name
  /-- Both are elements or both are fragments. -/
  isElement : n.isElement = m.isElement
  /-- Every name has the same first value. -/
  attribute? : ∀ attr, n.attribute? attr = m.attribute? attr

namespace Node.Agrees

variable {n m : Node}

mutual
/-- A test looks at the name and at first values only, also where it negates others. -/
theorem holds (h : n.Agrees m) : ∀ test : Test, test.holds n = test.holds m
  | .type name => by rw [Test.holds, Test.holds, h.name]
  | .has attr => by rw [Test.holds, Test.holds, h.attribute?]
  | .equals attr value => by rw [Test.holds, Test.holds, h.attribute?]
  | .not tests => by rw [Test.holds, Test.holds, h.all_hold tests]

/-- Several tests look at the name and at first values only. -/
theorem all_hold (h : n.Agrees m) : ∀ tests : List Test, allHold n tests = allHold m tests
  | [] => by rw [allHold, allHold]
  | test :: tests => by rw [allHold, allHold, h.holds test, h.all_hold tests]
end

/-- Nodes that agree match the same selectors. -/
theorem accepts (h : n.Agrees m) (selector : String) :
    Selector.accepts selector n = Selector.accepts selector m := by
  have hcompound : Selector.matchesCompound n = Selector.matchesCompound m := by
    funext cs
    simp only [Selector.matchesCompound, h.all_hold]
  rw [Selector.accepts, Selector.accepts, hcompound]

end Node.Agrees

namespace Element

/-- `e.Agrees f` says the nodes of `e` and `f` agree, attributes may be added to both or to none,
and the elements around them agree one by one. -/
structure Agrees (e f : Element) : Prop where
  /-- Their nodes agree. -/
  node : e.node.Agrees f.node
  /-- Attributes may be added to both or to none. -/
  spread : e.node.spread = f.node.spread
  /-- The elements around them agree. -/
  ancestors : List.Forall₂ (fun a b : Element => a.node.Agrees b.node)
    (MarkupElement.ancestors e) (MarkupElement.ancestors f)

variable {e f : Element}

/-- Elements whose nodes agree match the same selectors. -/
theorem satisfies_of_agrees (h : e.node.Agrees f.node) (selector : String) :
    e.satisfies selector = f.satisfies selector := by
  rw [satisfies, satisfies, h.isElement, h.accepts]

/-- Where the nodes of elements agree one by one, some of the ones match a selector exactly if some
of the others do. -/
theorem any_satisfies_of_agrees {ancestors others : List Element}
    (h : List.Forall₂ (fun a b : Element => a.node.Agrees b.node) ancestors others)
    (selector : String) :
    ancestors.any (MarkupElement.satisfies · selector) =
      others.any (MarkupElement.satisfies · selector) := by
  induction h with
  | nil => rfl
  | cons hhead _ ih =>
      rw [List.any_cons, List.any_cons, ih]
      exact congrArg (· || _) (satisfies_of_agrees hhead selector)

/-- Elements that agree are alike. -/
theorem Agrees.alike (h : e.Agrees f) : MarkupElement.Alike e f where
  name := h.node.name
  hasSpread := h.spread
  attribute? := h.node.attribute?
  satisfies := satisfies_of_agrees h.node
  liesIn := any_satisfies_of_agrees h.ancestors

/-- Where the nodes above two nodes agree one by one, so do the elements among them. -/
theorem forall₂_elements_of {around others : List Node}
    (h : List.Forall₂ Node.Agrees around others) :
    List.Forall₂ (fun a b : Element => a.node.Agrees b.node)
      (elementsOf around) (elementsOf others) := by
  induction h with
  | nil => exact .nil
  | cons hhead _ ih =>
      rw [elementsOf, elementsOf, hhead.isElement]
      split
      · exact .cons hhead ih
      · exact ih

end Element

/-! ### Changes of an attribute list -/

/-- `Edit as bs` says `bs` is the attribute list `as` after a change that keeps every first value:
a name written with other cases, two neighbours with different names in the other order, or one more
attribute after one of the same name. -/
inductive Edit : List (String × String) → List (String × String) → Prop where
  | recase (before after) {written recased value} :
      Text.equalAscii written recased = true →
      Edit (before ++ (written, value) :: after) (before ++ (recased, value) :: after)
  | swap (before after) {a b} :
      Text.equalAscii a.1 b.1 = false →
      Edit (before ++ a :: b :: after) (before ++ b :: a :: after)
  | duplicate (before after) {earlier later} :
      earlier ∈ before → Text.equalAscii earlier.1 later.1 = true →
      Edit (before ++ after) (before ++ later :: after)

/-- `firstValue? attributes name` is the value of the first of `attributes` called `name`. -/
def firstValue? (attributes : List (String × String)) (name : String) : Option String :=
  (attributes.find? fun (written, _) => Text.equalAscii written name).map (·.2)

/-- What comes after a list counts only where the list has no attribute of the name. -/
theorem first_value?_append (before after : List (String × String)) (name : String) :
    firstValue? (before ++ after) name =
      (firstValue? before name).or (firstValue? after name) := by
  rw [firstValue?, firstValue?, firstValue?, List.find?_append, Option.map_or]

/-- The first of the attributes has the first value of its name. -/
theorem first_value?_cons (written value : String) (after : List (String × String))
    (name : String) :
    firstValue? ((written, value) :: after) name =
      if Text.equalAscii written name then some value else firstValue? after name := by
  rw [firstValue?, firstValue?, List.find?_cons]
  split <;> simp_all

/-- A name that equals another one is called as the other one is. -/
theorem equal_ascii_congr {written recased : String} (h : Text.equalAscii written recased = true)
    (name : String) : Text.equalAscii written name = Text.equalAscii recased name := by
  have hlower : Text.lowercaseAscii written = Text.lowercaseAscii recased := eq_of_beq h
  rw [Text.equalAscii, Text.equalAscii, hlower]

/-- An attribute of the name gives the name a first value. -/
theorem first_value?_ne_none {attributes : List (String × String)} {earlier : String × String}
    {name : String} (hmem : earlier ∈ attributes) (h : Text.equalAscii earlier.1 name = true) :
    firstValue? attributes name ≠ none := by
  rw [firstValue?, ne_eq, Option.map_eq_none_iff, List.find?_eq_none]
  exact fun hnone => hnone earlier hmem h

/-- A change keeps every first value. -/
theorem Edit.first_value?_eq {as bs : List (String × String)} (h : Edit as bs) (name : String) :
    firstValue? as name = firstValue? bs name := by
  cases h with
  | recase before after heq =>
      rw [first_value?_append, first_value?_append, first_value?_cons, first_value?_cons,
        equal_ascii_congr heq]
  | @swap before after a b hne =>
      rw [first_value?_append, first_value?_append, first_value?_cons, first_value?_cons,
        first_value?_cons, first_value?_cons]
      -- no name is that of both attributes
      cases ha : Text.equalAscii a.1 name with
      | false => simp
      | true =>
          have hname : Text.lowercaseAscii a.1 = Text.lowercaseAscii name := eq_of_beq ha
          have hb : Text.equalAscii b.1 name = false := by
            rwa [Text.equalAscii, ← hname, BEq.comm]
          simp [hb]
  | @duplicate before after earlier later hmem heq =>
      rw [first_value?_append, first_value?_append, first_value?_cons]
      cases hlater : Text.equalAscii later.1 name with
      | false => simp
      | true =>
          have hearlier : Text.equalAscii earlier.1 name = true :=
            (equal_ascii_congr heq name).trans hlater
          have hfirst := first_value?_ne_none hmem hearlier
          obtain ⟨value, hvalue⟩ := Option.ne_none_iff_exists'.1 hfirst
          simp [hvalue]

/-- Changes of an attribute list, made or undone, keep every first value. -/
theorem first_value?_eq_of_edits {as bs : List (String × String)} (h : Relation.EqvGen Edit as bs)
    (name : String) : firstValue? as name = firstValue? bs name := by
  induction h with
  | rel _ _ hedit => exact hedit.first_value?_eq name
  | refl => rfl
  | symm _ _ _ ih => exact ih.symm
  | trans _ _ _ _ _ ih ih' => exact ih.trans ih'

/-- `n.Edited m` says `m` is `n` with a changed attribute list. -/
def Node.Edited (n m : Node) : Prop :=
  ∃ attributes, Relation.EqvGen Edit n.attributes attributes ∧ m = { n with attributes }

/-- A node with a changed attribute list agrees with the node. -/
theorem Node.Edited.agrees {n m : Node} (h : n.Edited m) : n.Agrees m := by
  obtain ⟨attributes, hedits, rfl⟩ := h
  exact ⟨rfl, rfl, first_value?_eq_of_edits hedits⟩

/-- `e.Edited f` says `f` is `e` with changes to its attributes and to those of the nodes around
it. -/
structure Element.Edited (e f : Element) : Prop where
  /-- The attributes of the node are changed. -/
  node : e.node.Edited f.node
  /-- The attributes of the nodes around it are changed. -/
  around : List.Forall₂ Node.Edited e.around f.around

/-- An element with changed attribute lists, in it or above it, agrees with the element. -/
theorem Element.Edited.agrees {e f : Element} (h : e.Edited f) : e.Agrees f where
  node := h.node.agrees
  spread := by
    obtain ⟨attributes, _, hnode⟩ := h.node
    rw [hnode]
  ancestors := forall₂_elements_of (h.around.imp fun _ _ hedited => hedited.agrees)

/-! ### The same answers -/

/-- `SameAnswers r e f` says every query of `r` gives the same answer for `e` and `f`. -/
structure SameAnswers (r : Repository) (e f : Element) : Prop where
  /-- They match the same selectors, whether or not these can be read. -/
  satisfies : ∀ selector, MarkupElement.satisfies e selector = MarkupElement.satisfies f selector
  /-- They meet the same conditions. -/
  isMet : ∀ condition, Condition.isMet condition e = Condition.isMet condition f
  /-- They have the same role anyway. -/
  implicitRole? : r.implicitRole? e = r.implicitRole? f
  /-- They end up with the same role. -/
  computedRole? : r.computedRole? e = r.computedRole? f
  /-- They may ask for the same roles. -/
  permission : r.permission e = r.permission f
  /-- The same is wrong with the role that they ask for. -/
  verifiedRole : ∀ version, r.verifiedRole version e = r.verifiedRole version f
  /-- A check of an attribute against given definitions ends in the same way. -/
  check : ∀ {m : Type → Type} [Monad m] (checker : Checker m) (translate : Translator)
    (a : WrittenAttribute) (definitions : List AttributeDef),
    a.check checker translate e definitions = a.check checker translate f definitions
  /-- A check of an attribute against the definitions of `r` ends in the same way. -/
  checkAttribute : ∀ {m : Type → Type} [Monad m] (checker : Checker m) (translate : Translator)
    (a : WrittenAttribute),
    r.checkAttribute checker translate a e = r.checkAttribute checker translate a f

/-- Elements that agree get the same answers. -/
theorem Element.Agrees.same_answers {e f : Element} (h : e.Agrees f) (r : Repository) :
    SameAnswers r e f where
  satisfies := h.alike.satisfies
  isMet := h.alike.is_met
  implicitRole? := h.alike.implicit_role?
  computedRole? := h.alike.computed_role?
  permission := h.alike.permission
  verifiedRole := h.alike.verified_role
  check := h.alike.check
  checkAttribute := h.alike.check_attribute

/-- Elements with the same name, kind and spread get the same answers to every query if every name
of an attribute gives the same first value, on them and on the elements around them. So no answer
changes where names are written with other cases, attributes of different names change places, or
another attribute of a name is added after the first one. -/
theorem same_answers_of_first_values (r : Repository) :
    (∀ e f : Element, e.Agrees f → SameAnswers r e f) ∧
      ∀ e f : Element, e.Edited f → SameAnswers r e f :=
  ⟨fun _ _ h => h.same_answers r, fun _ _ h => h.agrees.same_answers r⟩

/-- A link in a navigation, with two addresses of which the first one counts. -/
def link : Element where
  node := { name := "a", attributes := [("HREF", "/x"), ("role", "button"), ("href", "/y")] }
  around := [{ name := "nav", attributes := [("Class", "top")] }]

/-- The same link, with its attributes in another order and in other cases. -/
def rewrittenLink : Element where
  node := { name := "a", attributes := [("role", "button"), ("Href", "/x")] }
  around := [{ name := "nav", attributes := [("class", "top")] }]

/-- The rewritten link is the link after several changes. -/
theorem edited_link : link.Edited rewrittenLink where
  node := by
    refine ⟨[("role", "button"), ("Href", "/x")], ?_, rfl⟩
    have hswap : Edit [("HREF", "/x"), ("role", "button")] [("role", "button"), ("HREF", "/x")] :=
      .swap [] [] (by decide)
    have hrecase : Edit [("role", "button"), ("HREF", "/x")] [("role", "button"), ("Href", "/x")] :=
      .recase [("role", "button")] [] (by decide)
    have hduplicate : Edit [("HREF", "/x"), ("role", "button")]
        [("HREF", "/x"), ("role", "button"), ("href", "/y")] :=
      .duplicate [("HREF", "/x"), ("role", "button")] [] List.mem_cons_self (by decide)
    exact .trans _ _ _ (.symm _ _ (.rel _ _ hduplicate)) (.trans _ _ _ (.rel _ _ hswap)
      (.rel _ _ hrecase))
  around := .cons ⟨_, .rel _ _ (.recase [] [] (by decide)), rfl⟩ .nil

/-- A document in which an anchor with an address is a link. -/
def addressedLinks : Document where
  elements := [{ name := "a", implicitRole := some (ImplicitRole.when {} "[href]" "link") }]

/-- The link gets the same answers in both forms. -/
theorem same_answers_of_link :
    ∃ r, Repository.ofDocument addressedLinks = .ok r ∧ link.Edited rewrittenLink ∧
      link.Agrees rewrittenLink ∧ SameAnswers r link rewrittenLink := by
  obtain ⟨r, hr⟩ := Repository.exists_of_document_iff.2
    (show addressedLinks.defect? = none by cbv)
  exact ⟨r, hr, edited_link, edited_link.agrees,
    (same_answers_of_first_values r).2 _ _ edited_link⟩

end Tree

end MarkupSemantics
