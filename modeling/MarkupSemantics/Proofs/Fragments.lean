import MarkupSemantics.Proofs.Alternatives
import MarkupSemantics.Proofs.FirstValues

/-!
# Fragments above an element

Fragments are passed over on the way up. `MarkupElement.Climb` is that way, one parent after the
other, and `climb_iff` says that it meets the listed ancestors. A fragment that is put into a chain
of nodes, or taken out of it, leaves the elements of the chain as they are, so the rules cannot tell
the two chains apart. The main statement is `same_answers_of_refragmented`.
-/

namespace MarkupSemantics

/-- `Climb e path` says that the way up from `e`, from each element to its parent until there is
none, meets the elements `path`. -/
inductive MarkupElement.Climb {ε : Type} [MarkupElement ε] : ε → List ε → Prop where
  | top (e) : parent? e = none → Climb e []
  | up (e parent path) :
      parent? e = some parent → Climb parent path → Climb e (parent :: path)

namespace Tree

namespace Element

open MarkupElement (Climb)

/-! ### The way up -/

/-- What is listed after the nearest ancestor is what is above that one. -/
theorem elements_of_eq_cons {around : List Node} {nearest : Element} {path : List Element}
    (h : elementsOf around = nearest :: path) : path = elementsOf nearest.around := by
  induction around with
  | nil => cases h
  | cons node around ih =>
      rw [elementsOf] at h
      split at h
      · cases h
        rfl
      · exact ih h

/-- The way up from an element meets its ancestors. -/
theorem ancestors_of_climb {e : Element} {path : List Element} (h : Climb e path) :
    MarkupElement.ancestors e = path := by
  induction h with
  | top e hnone => exact List.head?_eq_none_iff.1 hnone
  | up e parent path hparent _ ih =>
      obtain ⟨rest, hrest⟩ := List.head?_eq_some_iff.1 hparent
      have htail : rest = elementsOf parent.around := elements_of_eq_cons hrest
      rw [hrest, htail]
      exact congrArg (parent :: ·) ih

/-- The ancestors of an element are met on the way up. -/
theorem climb_of_ancestors {e : Element} {path : List Element}
    (h : MarkupElement.ancestors e = path) : Climb e path := by
  induction path generalizing e with
  | nil => exact .top e (List.head?_eq_none_iff.2 h)
  | cons parent path ih =>
      have hparent : MarkupElement.parent? e = some parent :=
        List.head?_eq_some_iff.2 ⟨path, h⟩
      exact .up e parent path hparent (ih (elements_of_eq_cons h).symm)

/-- The way up from an element meets its ancestors, each of them once. -/
theorem climb_iff {e : Element} {path : List Element} :
    Climb e path ↔ MarkupElement.ancestors e = path :=
  ⟨ancestors_of_climb, climb_of_ancestors⟩

end Element

/-! ### Chains with other fragments -/

/-- `AddsFragment around others` says `others` is the chain `around` with one more fragment at some
place. -/
inductive AddsFragment : List Node → List Node → Prop where
  | add (inner outer fragment) :
      Node.isElement fragment = false → AddsFragment (inner ++ outer) (inner ++ fragment :: outer)

/-- Chains that differ in fragments have the same elements in the same order. -/
theorem filter_eq_of_fragments {around others : List Node}
    (h : Relation.EqvGen AddsFragment around others) :
    around.filter (·.isElement) = others.filter (·.isElement) := by
  induction h with
  | rel _ _ hadds =>
      cases hadds with
      | add inner outer fragment hfragment =>
          rw [List.filter_append, List.filter_append,
            List.filter_cons_of_neg (by simp [hfragment])]
  | refl => rfl
  | symm _ _ _ ih => exact ih.symm
  | trans _ _ _ _ _ ih ih' => exact ih.trans ih'

namespace Element

open MarkupElement (Climb)

/-- `e.Refragmented f` says `f` is the node of `e` in the same chain, into which fragments are put
or out of which they are taken. -/
structure Refragmented (e f : Element) : Prop where
  /-- The node is the same. -/
  node : e.node = f.node
  /-- Fragments are put into the chain or taken out of it. -/
  around : Relation.EqvGen AddsFragment e.around f.around

/-- The elements of a chain are the nodes that are no fragments. -/
theorem map_node_elements_of (around : List Node) :
    (elementsOf around).map (·.node) = around.filter (·.isElement) := by
  induction around with
  | nil => rfl
  | cons node around ih =>
      rw [elementsOf, List.filter_cons]
      split
      · rw [List.map_cons, ih]
      · exact ih

namespace Refragmented

variable {e f : Element}

/-- The nodes above are the same, although what is above each of them may differ in fragments. -/
theorem map_node_ancestors (h : e.Refragmented f) :
    (MarkupElement.ancestors e).map (·.node) = (MarkupElement.ancestors f).map (·.node) := by
  show (elementsOf e.around).map (·.node) = (elementsOf f.around).map (·.node)
  rw [map_node_elements_of, map_node_elements_of, filter_eq_of_fragments h.around]

/-- Elements that differ in fragments above them agree. -/
theorem agrees (h : e.Refragmented f) : e.Agrees f where
  node := h.node ▸ ⟨rfl, rfl, fun _ => rfl⟩
  spread := by rw [h.node]
  ancestors := by
    have hnodes : List.Forall₂ (· = ·) ((MarkupElement.ancestors e).map (·.node))
        ((MarkupElement.ancestors f).map (·.node)) := by
      rw [List.forall₂_eq_eq_eq]
      exact h.map_node_ancestors
    rw [List.forall₂_map_left_iff, List.forall₂_map_right_iff] at hnodes
    exact hnodes.imp fun _ _ hnode => hnode ▸ ⟨rfl, rfl, fun _ => rfl⟩

/-- The elements on the way up have the same names. -/
theorem map_name_ancestors (h : e.Refragmented f) :
    (MarkupElement.ancestors e).map MarkupElement.name =
      (MarkupElement.ancestors f).map MarkupElement.name := by
  have hnames := congrArg (List.map Node.name) h.map_node_ancestors
  rwa [List.map_map, List.map_map] at hnames

end Refragmented

end Element

/-! ### The same answers -/

open MarkupElement (Climb)

/-- Fragments make no difference, wherever they are put into the chain above an element or taken out
of it: the way up meets elements of the same names, the same selectors match above, and every query
gets the same answer. An element lies in a selector exactly if some element of the chain matches it,
at any distance and with any fragments between, and a fragment matches no selector. -/
theorem same_answers_of_refragmented (r : Repository) :
    (∀ e f : Element, e.Refragmented f →
      (∃ path other, Climb e path ∧ Climb f other ∧
        path.map MarkupElement.name = other.map MarkupElement.name) ∧
      (∀ selector, MarkupElement.liesIn e selector = MarkupElement.liesIn f selector) ∧
      SameAnswers r e f) ∧
    (∀ (e : Element) selector, MarkupElement.liesIn e selector = true ↔
      ∃ inner node outer, e.around = inner ++ node :: outer ∧ node.isElement = true ∧
        MarkupElement.satisfies (Element.mk node outer) selector = true) ∧
    ∀ (e : Element) selector, e.node.isElement = false →
      MarkupElement.satisfies e selector = false := by
  refine ⟨?_, fun e selector => Element.lies_in_iff, ?_⟩
  · intro e f h
    refine ⟨⟨_, _, Element.climb_iff.2 rfl, Element.climb_iff.2 rfl, h.map_name_ancestors⟩, ?_, ?_⟩
    · exact h.agrees.alike.liesIn
    · exact h.agrees.same_answers r
  · intro e selector hfragment
    show (e.node.isElement && Selector.accepts selector e.node) = false
    rw [hfragment, Bool.false_and]

/-- An item of a list in a navigation. -/
def item : Element where
  node := { name := "li" }
  around := [{ name := "ol" }, { name := "nav" }]

/-- The same item, with fragments around each node above it. -/
def groupedItem : Element where
  node := { name := "li" }
  around := [Node.fragment, { name := "ol" }, Node.fragment.addAttribute "role" "list",
    Node.fragment, { name := "nav" }, Node.fragment]

/-- The grouped item is the item with fragments around each node above it. -/
theorem refragmented_item : item.Refragmented groupedItem where
  node := rfl
  around := by
    let ol : Node := { name := "ol" }
    let nav : Node := { name := "nav" }
    have hlast : AddsFragment [ol, nav] [ol, nav, Node.fragment] :=
      .add [ol, nav] [] Node.fragment rfl
    have hthird : AddsFragment [ol, nav, Node.fragment] [ol, Node.fragment, nav, Node.fragment] :=
      .add [ol] [nav, Node.fragment] Node.fragment rfl
    have hsecond : AddsFragment [ol, Node.fragment, nav, Node.fragment]
        [ol, Node.fragment.addAttribute "role" "list", Node.fragment, nav, Node.fragment] :=
      .add [ol] [Node.fragment, nav, Node.fragment] (Node.fragment.addAttribute "role" "list") rfl
    exact .trans _ _ _ (.rel _ _ hlast) (.trans _ _ _ (.rel _ _ hthird) (.trans _ _ _
      (.rel _ _ hsecond) (.rel _ _ (.add [] _ Node.fragment rfl))))

/-- A document in which the items of an ordered list may have numbers. -/
def numberedItems : Document where
  elements := [{
    name := "li"
    attributes := [.single { name := "value", condition := some (Condition.inside "ol") }] }]

/-- The way up from the item meets the list and the navigation, with and without the fragments, and
the item may have a number in both places or in none. -/
theorem same_answers_of_item :
    ∃ r, Repository.ofDocument numberedItems = .ok r ∧ item.Refragmented groupedItem ∧
      (∃ path other, Climb item path ∧ Climb groupedItem other ∧
        path.map MarkupElement.name = ["ol", "nav"] ∧
        other.map MarkupElement.name = ["ol", "nav"]) ∧
      SameAnswers r item groupedItem := by
  obtain ⟨r, hr⟩ := Repository.exists_of_document_iff.2
    (show numberedItems.defect? = none by cbv)
  obtain ⟨⟨path, other, hpath, hother, hnames⟩, -, hanswers⟩ :=
    (same_answers_of_refragmented r).1 _ _ refragmented_item
  have hitem : path.map MarkupElement.name = ["ol", "nav"] := by
    rw [← Element.climb_iff.1 hpath]
    rfl
  exact ⟨r, hr, refragmented_item, ⟨path, other, hpath, hother, hitem, hnames ▸ hitem⟩, hanswers⟩

end Tree

end MarkupSemantics
