import NumberingPlan.Text.Blank
import NumberingPlan.Xml.Element

/-! Edits of elements. What an element holds under a name stays as it is when neighbours of different names
are exchanged, at any depth, and when one child is replaced by another of its name that shows the same. -/
namespace NumberingPlan.Xml

mutual
/-- All elements inside an element in document order: each child, and after it all that are inside it. -/
def Element.descendants : Element → List Element
  | .node _ _ _ children => Element.withDescendants children

/-- Elements and all that are inside them, in document order. -/
def Element.withDescendants : List Element → List Element
  | [] => []
  | child :: children => child :: (child.descendants ++ Element.withDescendants children)
end

/-- Two neighbours of different names are exchanged, among the children or deeper. -/
inductive Exchanged : Element → Element → Prop where
  | children (different : x.name ≠ y.name) : Exchanged (.node name attributes text (front ++ x :: y :: back))
      (.node name attributes text (front ++ y :: x :: back))
  | deeper (inside : Exchanged x x') : Exchanged (.node name attributes text (front ++ x :: back))
      (.node name attributes text (front ++ x' :: back))

/-- One child of a name is changed. -/
inductive Within (part : String) (Changed : Element → Element → Prop) : Element → Element → Prop where
  | child (named : x.name = part) (named' : x'.name = part) (changed : Changed x x') :
      Within part Changed (.node name attributes text (front ++ x :: back))
        (.node name attributes text (front ++ x' :: back))

/-- One more blank stands in the text of an element. -/
inductive Spaced : Element → Element → Prop where
  | blank (blank : Text.isBlank c = true) :
      Spaced (.node name attributes (String.ofList (front ++ back)) children)
        (.node name attributes (String.ofList (front ++ c :: back)) children)

variable {e e' x x' : Element} {part : String} {front back : List Element} {Changed : Element → Element → Prop}
  {shows : Element → β}

private theorem sublist_withDescendants (es : List Element) : es.Sublist (Element.withDescendants es) := by
  induction es with
  | nil => exact .slnil
  | cons e es ih =>
    rw [Element.withDescendants]
    exact (ih.trans (List.sublist_append_right ..)).cons_cons e

private theorem childrenNamed_sublist (e : Element) (part : String) : (e.childrenNamed part).Sublist e.descendants := by
  cases e with
  | node _ _ _ children =>
    rw [Element.descendants]
    exact List.filter_sublist.trans (sublist_withDescendants children)

/-- Children of children by their names stand in document order. -/
theorem grandchildren_sublist (e : Element) (outer inner : String) :
    ((e.childrenNamed outer).flatMap (·.childrenNamed inner)).Sublist e.descendants := by
  cases e with
  | node _ _ _ children =>
    rw [Element.descendants, Element.childrenNamed, Element.children]
    induction children with
    | nil => exact .slnil
    | cons e es ih =>
      rw [Element.withDescendants, List.filter_cons]
      split
      · rw [List.flatMap_cons]
        exact ((childrenNamed_sublist e inner).append ih).cons e
      · exact (ih.trans (List.sublist_append_right ..)).cons e

private theorem Exchanged.name_eq (exchanged : Exchanged e e') : e'.name = e.name := by
  cases exchanged <;> rfl

theorem Exchanged.attributes_eq (exchanged : Exchanged e e') : e'.attributes = e.attributes := by
  cases exchanged <;> rfl

theorem Exchanged.text_eq (exchanged : Exchanged e e') : e'.text = e.text := by
  cases exchanged <;> rfl

theorem Within.attributes_eq (within : Within part Changed e e') : e'.attributes = e.attributes := by
  cases within
  rfl

theorem Spaced.attributes_eq (spaced : Spaced e e') : e'.attributes = e.attributes := by
  cases spaced
  rfl

theorem Spaced.squeeze_eq (spaced : Spaced e e') : Text.squeeze e'.text = Text.squeeze e.text := by
  cases spaced with
  | blank blank => simp [Element.text, Text.squeeze, blank]

theorem Element.child?_eq_head? (e : Element) (name : String) : e.child? name = (e.childrenNamed name).head? :=
  List.head?_filter.symm

theorem Element.child?_map (e : Element) (name : String) (shows : Element → β) :
    (e.child? name).map shows = ((e.childrenNamed name).map shows).head? := by
  rw [child?_eq_head?, List.head?_map]

/-- The children of a name show the same if one of them is replaced by one of its name that does. -/
theorem childrenNamed_replaced (named : x'.name = x.name) (same : x.name = part → shows x' = shows x) :
    ((Element.node name attributes text (front ++ x' :: back)).childrenNamed part).map shows =
      ((Element.node name attributes text (front ++ x :: back)).childrenNamed part).map shows := by
  simp only [Element.childrenNamed, Element.children, List.filter_append, List.filter_cons, List.map_append, named]
  by_cases here : x.name = part
  · simp [here, same here]
  · simp [here]

theorem childrenNamed_inserted (other : x.name ≠ part) :
    (Element.node name attributes text (front ++ x :: back)).childrenNamed part =
      (Element.node name attributes text (front ++ back)).childrenNamed part := by
  simp [Element.childrenNamed, Element.children, other]

/-- What stands behind the first child of a name is not the first. -/
theorem child?_of_front (found : ∃ y ∈ front, y.name = part) (given : List (String × String)) (back : List Element) :
    (Element.node name given text (front ++ back)).child? part = front.find? (·.name == part) := by
  obtain ⟨y, member, named⟩ := found
  have first : (front.find? (·.name == part)).isSome := by
    rw [List.find?_isSome]
    exact ⟨y, member, beq_iff_eq.mpr named⟩
  rw [Element.child?, Element.children, List.find?_append, Option.or_of_isSome first]

theorem Exchanged.childrenNamed (exchanged : Exchanged e e') (part : String)
    (same : ∀ x x', Exchanged x x' → shows x' = shows x) :
    (e'.childrenNamed part).map shows = (e.childrenNamed part).map shows := by
  cases exchanged with
  | @children _ _ _ _ x y _ different =>
    simp only [Element.childrenNamed, Element.children, List.filter_append, List.filter_cons]
    by_cases first : x.name = part
    · have second : y.name ≠ part := fun second => different (first.trans second.symm)
      simp [first, second]
    · simp [first]
  | deeper inside => exact childrenNamed_replaced inside.name_eq fun _ => same _ _ inside

theorem Within.childrenNamed (within : Within part Changed e e') (other : String)
    (same : other = part → ∀ x x', Changed x x' → shows x' = shows x) :
    (e'.childrenNamed other).map shows = (e.childrenNamed other).map shows := by
  cases within with
  | child named named' changed =>
    exact childrenNamed_replaced (named'.trans named.symm) fun here => same (here.symm.trans named) _ _ changed

end NumberingPlan.Xml
