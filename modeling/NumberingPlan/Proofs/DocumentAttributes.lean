import NumberingPlan.Proofs.ListReading
import NumberingPlan.Xml.Document

/-! Attributes in documents. A start tag is refused if an attribute is repeated in it, as it is written or with
its namespace in full, and nothing that is read later adds one. So no element of a document that can be read
repeats an attribute, at any depth. -/
namespace NumberingPlan.Xml

/-- No attribute is repeated in an element or in any element inside it. -/
inductive Element.Unrepeated : Element → Prop where
  | node {given : List (String × String)} {held : List Element} (own : (given.map Prod.fst).Nodup)
      (inside : ∀ child ∈ held, Unrepeated child) : Unrepeated (.node tag given characters held)

/-- No attribute is repeated in an open element or in the children that it has so far. -/
structure OpenElement.Unrepeated (e : OpenElement) : Prop where
  own : (e.attributes.map Prod.fst).Nodup
  inside : ∀ child ∈ e.children, child.Unrepeated

/-- No attribute is repeated in what is read so far. -/
structure Content.Unrepeated (c : Content) : Prop where
  opened : ∀ e ∈ c.elements, e.Unrepeated
  ended : ∀ root, c.root = some root → root.Unrepeated

variable {c c' : Content} {d : Doctype} {e : Element} {frames : List Frame}

theorem Element.Unrepeated.attributes (unrepeated : e.Unrepeated) : (e.attributes.map Prod.fst).Nodup := by
  cases unrepeated with
  | node own inside => exact own

theorem Element.Unrepeated.childrenNamed (unrepeated : e.Unrepeated) (part : String) :
    ∀ child ∈ e.childrenNamed part, child.Unrepeated := by
  intro child member
  cases unrepeated with
  | node own inside => exact inside child (List.mem_filter.mp member).1

theorem distinct_iff (texts : List String) : distinct texts = true ↔ texts.Nodup := by
  induction texts with
  | nil => exact ⟨fun _ => .nil, fun _ => rfl⟩
  | cons text texts ih =>
    rw [distinct, Bool.and_eq_true, ih, List.nodup_cons, Bool.not_eq_true', List.contains_eq_mem,
      decide_eq_false_iff_not]

/-- What comes after a check is computed only if the check is passed. -/
theorem checked_eq_ok {ε α : Type} {passed : Bool} {e : ε} {next : Unit → Except ε α} {value : α}
    (done : (if (!passed) = true then (throw e : Except ε Unit) >>= next else next ()) = .ok value) :
    passed = true ∧ next () = .ok value := by
  cases passed with
  | false => cases done
  | true => exact ⟨rfl, done⟩

/-! ### One step -/

/-- An element that a tag begins repeats no attribute, also none that is declared for it. -/
theorem openElement_unrepeated {outer : Namespaces} {tag : Tag} {opened : OpenElement}
    (begun : openElement d outer tag = .ok opened) : opened.Unrepeated := by
  unfold openElement at begun
  obtain ⟨-, begun⟩ := checked_eq_ok begun
  obtain ⟨given, -, begun⟩ := bind_eq_ok begun
  obtain ⟨spaces, -, begun⟩ := bind_eq_ok begun
  obtain ⟨attributes, -, begun⟩ := bind_eq_ok begun
  obtain ⟨once, begun⟩ := checked_eq_ok begun
  obtain ⟨name, -, begun⟩ := bind_eq_ok begun
  cases begun
  exact ⟨(distinct_iff _).mp once, nofun⟩

theorem OpenElement.Unrepeated.close {opened : OpenElement} (unrepeated : opened.Unrepeated) :
    opened.close.Unrepeated := by
  apply Element.Unrepeated.node unrepeated.own
  intro child member
  exact unrepeated.inside child (List.mem_reverse.mp member)

namespace Content.Unrepeated

private theorem reframed (unrepeated : c.Unrepeated) : Content.Unrepeated { c with frames := frames } :=
  ⟨unrepeated.opened, unrepeated.ended⟩

theorem put (unrepeated : c.Unrepeated) (complete : e.Unrepeated) : (c.put e).Unrepeated := by
  obtain ⟨frames, elements, root⟩ := c
  cases elements with
  | nil =>
    refine ⟨nofun, ?_⟩
    rintro _ ⟨⟩
    exact complete
  | cons parent outer =>
    obtain ⟨inner, outer⟩ := List.forall_mem_cons.mp unrepeated.opened
    have joined : ∀ child ∈ e :: parent.children, child.Unrepeated :=
      List.forall_mem_cons.mpr ⟨complete, inner.inside⟩
    exact ⟨List.forall_mem_cons.mpr ⟨⟨inner.own, joined⟩, outer⟩, unrepeated.ended⟩

theorem addText (unrepeated : c.Unrepeated) (text : List Char) : (c.addText text).Unrepeated := by
  obtain ⟨frames, elements, root⟩ := c
  cases elements with
  | nil => exact unrepeated
  | cons inner outer =>
    obtain ⟨kept, others⟩ := List.forall_mem_cons.mp unrepeated.opened
    have same : (inner.addText text).Unrepeated := by
      unfold OpenElement.addText
      split
      · exact ⟨kept.own, kept.inside⟩
      · exact kept
    exact ⟨List.forall_mem_cons.mpr ⟨same, others⟩, unrepeated.ended⟩

theorem start {tag : Tag} (unrepeated : c.Unrepeated) (done : c.start d tag = .ok c') : c'.Unrepeated := by
  unfold Content.start at done
  obtain ⟨opened, begun, done⟩ := bind_eq_ok done
  have begins := openElement_unrepeated begun
  split at done
  · cases done
    exact unrepeated.put begins.close
  · cases done
    exact ⟨List.forall_mem_cons.mpr ⟨begins, unrepeated.opened⟩, unrepeated.ended⟩

theorem finish {depth : Nat} {name : String} (unrepeated : c.Unrepeated)
    (done : c.finish depth name = .ok c') : c'.Unrepeated := by
  obtain ⟨frames, elements, root⟩ := c
  cases elements with
  | nil => cases done
  | cons inner outer =>
    obtain ⟨ending, others⟩ := List.forall_mem_cons.mp unrepeated.opened
    unfold Content.finish at done
    dsimp only at done
    split at done
    · cases done
    · split at done
      · cases done
        exact put ⟨others, unrepeated.ended⟩ ending.close
      · cases done

theorem enter {name : String} (unrepeated : c.Unrepeated) (done : c.enter d name = .ok c') : c'.Unrepeated := by
  unfold Content.enter at done
  split at done
  · cases done
  · cases done
  · split at done
    · cases done
    · cases done
      exact unrepeated.reframed

/-- Whatever markup or text is read next, no attribute is repeated after it. -/
theorem read {top : Frame} {below : List Frame} (unrepeated : c.Unrepeated)
    (done : c.read d top below = .ok c') : c'.Unrepeated := by
  unfold Content.read at done
  dsimp only at done
  split at done
  · -- an end tag
    obtain ⟨⟨name, rest⟩, -, done⟩ := bind_eq_ok done
    exact unrepeated.reframed.finish done
  · -- an instruction
    obtain ⟨rest, -, done⟩ := bind_eq_ok done
    cases done
    exact unrepeated.reframed
  · -- a comment
    obtain ⟨rest, -, done⟩ := bind_eq_ok done
    cases done
    exact unrepeated.reframed
  · -- a literal section
    split at done
    · split at done
      · cases done
        exact unrepeated.reframed.addText _
      · cases done
    · cases done
  · -- a start tag
    split at done
    · cases done
    · obtain ⟨⟨tag, rest⟩, -, done⟩ := bind_eq_ok done
      exact unrepeated.reframed.start done
  · -- a reference
    split at done
    · cases done
    · obtain ⟨⟨named, rest⟩, -, done⟩ := bind_eq_ok done
      cases named with
      | character character =>
        cases done
        exact unrepeated.reframed.addText _
      | entity name => exact unrepeated.reframed.enter done
  · -- character data
    obtain ⟨⟨data, rest⟩, -, done⟩ := bind_eq_ok done
    dsimp only at done
    split at done
    · split at done
      · cases done
        exact unrepeated.reframed
      · cases done
    · cases done
      exact unrepeated.reframed.addText data

/-! ### The whole document -/

private theorem unbegun (frames : List Frame) : Content.Unrepeated ⟨frames, [], none⟩ where
  opened _ member := nomatch member
  ended _ ended := nomatch ended

/-- No step brings in a repeated attribute, so the root that the last one leaves has none either. -/
theorem run {fuel : Nat} (unrepeated : c.Unrepeated) (done : Content.run d fuel c = .ok e) : e.Unrepeated := by
  induction fuel generalizing c with
  | zero => cases done
  | succ fuel ih =>
    unfold Content.run at done
    split at done
    · -- no text is open any more, so the root is the document
      split at done
      · rename_i root ended
        cases done
        exact unrepeated.ended _ ended
      · cases done
    · split at done
      · -- the innermost text ends, which closes no element
        split at done
        · exact ih unrepeated.reframed done
        · cases done
      · split at done
        · rename_i stepped
          exact ih (unrepeated.read stepped) done
        · cases done

end Content.Unrepeated

/-- No element of a document repeats an attribute. -/
theorem parse_unrepeated {bytes : List UInt8} {root : Element} (parsed : parse bytes = .ok root) :
    root.Unrepeated := by
  unfold parse at parsed
  obtain ⟨⟨declaration, text⟩, -, parsed⟩ := bind_eq_ok parsed
  obtain ⟨⟨d, rest⟩, -, parsed⟩ := bind_eq_ok parsed
  exact (Content.Unrepeated.unbegun _).run parsed

end NumberingPlan.Xml
