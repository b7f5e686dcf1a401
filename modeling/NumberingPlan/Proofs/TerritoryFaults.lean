import NumberingPlan.Failure
import NumberingPlan.Proofs.LengthItems

/-! What keeps an element from being a territory. Its calling code is read first, then its texts of lengths
item by item, description after description, and last its formats; the first fault among these is the fault
of the element. Every fault says that the source is bad but one: a range of too many lengths. -/
namespace NumberingPlan

/-- The items of a text of lengths, each with the text that it stands in. -/
def Lengths.entries (value : String) : List (String × List Char) :=
  if value = "" then [] else (items value.toList).map fun item => (value, item)

/-- A text of lengths has the fault of its first item that has one. -/
theorem Lengths.fault?_parse (value : String) :
    fault? (parse value) = (entries value).findSome? fun (value, item) => fault? (ofItem value item) := by
  by_cases empty : value = ""
  · rw [entries, if_pos empty, empty]
    rfl
  · rw [entries, if_neg empty, parse_of_nonempty empty, List.findSome?_map]
    refine Eq.trans ?_ (fault?_mapM _)
    cases (items value.toList).mapM (ofItem value) <;> rfl

namespace Territory

/-- The items of lengths that a description comes to. -/
def itemsOfDescription (e : Xml.Element) : List (String × List Char) :=
  ["national", "localOnly"].flatMap fun name =>
    Lengths.entries (((e.child? "possibleLengths").bind (·.attribute? name)).getD "")

/-- The items of lengths that an element comes to. -/
def lengthItems (e : Xml.Element) : List (String × List Char) :=
  (descriptionNames.filterMap e.child?).flatMap itemsOfDescription

def itemFault (entry : String × List Char) : Option MarkupFault :=
  (fault? (Lengths.ofItem entry.1 entry.2)).map .badLengths

private theorem fault?_lengthsIn (e : Option Xml.Element) (name : String) : fault? (lengthsIn e name) =
    (Lengths.entries ((e.bind (·.attribute? name)).getD "")).findSome? itemFault := by
  have mapped (entries : List (String × List Char)) : entries.findSome? itemFault =
      (entries.findSome? fun (value, item) => fault? (Lengths.ofItem value item)).map .badLengths :=
    List.map_findSome?.symm
  rw [mapped, ← Lengths.fault?_parse]
  unfold lengthsIn Lengths.parse?
  cases Lengths.parse ((e.bind fun e => e.attribute? name).getD "") <;> rfl

private theorem fault?_descriptionOf (lite : Bool) (e : Xml.Element) :
    fault? (descriptionOf lite e) = (itemsOfDescription e).findSome? itemFault := by
  rw [itemsOfDescription, List.flatMap_cons, List.flatMap_singleton, List.findSome?_append, ← fault?_lengthsIn,
    ← fault?_lengthsIn, descriptionOf]
  cases lengthsIn (e.child? "possibleLengths") "national" with
  | error fault => rfl
  | ok lengths => cases lengthsIn (e.child? "possibleLengths") "localOnly" <;> rfl

private theorem fault?_descriptionsOf (lite : Bool) (e : Xml.Element) (names : List String) :
    fault? (descriptionsOf lite e names) =
      ((names.filterMap e.child?).flatMap itemsOfDescription).findSome? itemFault := by
  have children : names.filterMap e.child? =
      (names.filterMap fun name => (e.child? name).map fun child => (name, child)).map Prod.snd := by
    simp [List.map_filterMap, Function.comp_def]
  rw [descriptionsOf, fault?_mapM, findSome?_flatMap, children, List.findSome?_map]
  congr 1
  funext (name, child)
  rw [Function.comp_apply, ← fault?_descriptionOf lite]
  dsimp only
  cases descriptionOf lite child <;> rfl

/-- An element has the fault of its calling code, of its first item of lengths that has one, or of its first
format that has one. -/
theorem fault?_ofElement (lite : Bool) (e : Xml.Element) : fault? (ofElement lite e) =
    (fault? (codeOf ((e.attribute? "id").getD "") (e.attribute? "countryCode"))).or
      (((lengthItems e).findSome? itemFault).or ((formatElements e).findSome? fun f => fault? (formatOf f))) := by
  rw [lengthItems, ← fault?_descriptionsOf lite, ← fault?_mapM]
  unfold ofElement
  dsimp only
  cases codeOf ((e.attribute? "id").getD "") (e.attribute? "countryCode") with
  | error fault => rfl
  | ok code =>
    cases descriptionsOf lite e descriptionNames with
    | error fault => rfl
    | ok descriptions => cases (formatElements e).mapM formatOf <;> rfl

theorem itemFault_eq_none_iff :
    itemFault entry = none ↔ ∃ lengths, Lengths.ofItem entry.1 entry.2 = .ok lengths := by
  rw [itemFault, Option.map_eq_none_iff, fault?_eq_none_iff]

theorem itemFault_eq_tooMany_iff : itemFault entry = some (.badLengths .tooMany) ↔
    ∃ item, Lengths.Writes entry.2 item ∧ ¬item.Fits := by
  rw [itemFault, ← Lengths.ofItem_eq_tooMany_iff entry.1, ← fault?_eq_some_iff]
  cases fault? (Lengths.ofItem entry.1 entry.2) <;> simp

private theorem codeOf_ne_tooMany {id : String} {code : Option String} :
    codeOf id code ≠ .error (.badLengths .tooMany) := by
  unfold codeOf
  split
  · exact nofun
  · split
    · exact nofun
    · split <;> exact nofun

private theorem formatOf_ne_tooMany : formatOf e ≠ .error (.badLengths .tooMany) := by
  unfold formatOf
  split <;> exact nofun

/-- Reading an element meets a range of too many lengths: its calling code is read, and so is every item of
lengths before the range. -/
def MeetsTooLongRange (e : Xml.Element) : Prop :=
  (∃ code, codeOf ((e.attribute? "id").getD "") (e.attribute? "countryCode") = .ok code) ∧
  ∃ before entry after, lengthItems e = before ++ entry :: after ∧
    (∀ earlier ∈ before, ∃ lengths, Lengths.ofItem earlier.1 earlier.2 = .ok lengths) ∧
    ∃ range, Lengths.Writes entry.2 range ∧ ¬range.Fits

theorem ofElement_eq_tooMany_iff (lite : Bool) (e : Xml.Element) :
    ofElement lite e = .error (.badLengths .tooMany) ↔ MeetsTooLongRange e := by
  rw [← fault?_eq_some_iff, fault?_ofElement, Option.or_eq_some_iff, Option.or_eq_some_iff, fault?_eq_some_iff,
    fault?_eq_none_iff, List.findSome?_eq_some_iff]
  simp only [itemFault_eq_none_iff, itemFault_eq_tooMany_iff]
  constructor
  · rintro (early | ⟨read, ⟨before, entry, after, split, range, earlier⟩ | ⟨-, late⟩⟩)
    · exact absurd early codeOf_ne_tooMany
    · exact ⟨read, before, entry, after, split, earlier, range⟩
    · obtain ⟨_, _, _, -, late, -⟩ := List.findSome?_eq_some_iff.mp late
      exact absurd (fault?_eq_some_iff.mp late) formatOf_ne_tooMany
  · rintro ⟨read, before, entry, after, split, earlier, range⟩
    exact .inr ⟨read, .inl ⟨before, entry, after, split, range, earlier⟩⟩

/-- Every fault but one is of the kind that sources have. -/
theorem kind_of_fault (other : fault ≠ .badLengths .tooMany) : (Failure.markup fault).kind = "MetadataSourceError" := by
  cases fault with
  | badCode => rfl
  | incompleteFormat => rfl
  | badLengths fault =>
    cases fault with
    | badItem => rfl
    | tooMany => exact absurd rfl other

/-- An element is a territory, or its fault is of the one kind that sources have, unless reading it meets a
range of too many lengths. Exactly then it has a fault of another kind. -/
theorem fault_is_of_the_source_without_too_long_range (lite : Bool) (e : Xml.Element) :
    (¬MeetsTooLongRange e → (∃ t, ofElement lite e = .ok t) ∨ ∃ fault, ofElement lite e = .error fault ∧
      (Failure.markup fault).kind = "MetadataSourceError") ∧
    (MeetsTooLongRange e → ofElement lite e = .error (.badLengths .tooMany) ∧
      (Failure.markup (.badLengths .tooMany)).kind = "OverflowError") := by
  rw [← ofElement_eq_tooMany_iff lite]
  constructor
  · intro other
    cases read : ofElement lite e with
    | ok t => exact .inl ⟨t, rfl⟩
    | error fault =>
      refine .inr ⟨fault, rfl, kind_of_fault ?_⟩
      rintro rfl
      exact other read
  · intro met
    exact ⟨met, rfl⟩

/-- A territory with a calling code and one description, whose national lengths are these. -/
def withLengths (code lengths : String) : Xml.Element :=
  .node "territory" [("id", "US"), ("countryCode", code)] ""
    [.node "generalDesc" [] "" [.node "possibleLengths" [("national", lengths)] "" []]]

/-- The fault of a calling code comes before a range of too many lengths, and so does that of an item before
the range; after an item that is read the range is met. -/
theorem first_of_several_faults :
    (∃ fault, ofElement true (withLengths "x" "[0-9223372036854775807]") = .error fault ∧
      (Failure.markup fault).kind = "MetadataSourceError") ∧
    ofElement true (withLengths "1" "7, [0-9223372036854775807],y") = .error (.badLengths .tooMany) := by
  constructor
  · have unread : ¬MeetsTooLongRange (withLengths "x" "[0-9223372036854775807]") := by
      rintro ⟨⟨code, ⟨⟩⟩, -⟩
    rcases (fault_is_of_the_source_without_too_long_range true _).1 unread with ⟨t, ⟨⟩⟩ | found
    exact found
  · refine ((fault_is_of_the_source_without_too_long_range true _).2 ?_).1
    have plain := Lengths.Item.decimal_spells (.range 0 9223372036854775807) (by decide)
    have range : Lengths.Writes (' ' :: Lengths.Item.decimal (.range 0 9223372036854775807)) _ :=
      ⟨[' '], _, [], (List.append_nil _).symm, List.forall_mem_singleton.mpr rfl, nofun, plain⟩
    have read : ∃ lengths, Lengths.ofItem "7, [0-9223372036854775807],y" ['7'] = .ok lengths := ⟨[7], rfl⟩
    exact ⟨⟨1, rfl⟩, [(_, ['7'])], (_, _), [(_, ['y'])], rfl, List.forall_mem_singleton.mpr read, _, range, by decide⟩

/-- A range of one length too many is refused for another reason than that the source is bad. -/
theorem too_long_range_is_no_fault_of_the_source :
    ¬((∃ t, ofElement false (withLengths "1" "[0-9223372036854775807]") = .ok t) ∨
      ∃ fault, ofElement false (withLengths "1" "[0-9223372036854775807]") = .error fault ∧
        (Failure.markup fault).kind = "MetadataSourceError") := by
  have read : ofElement false (withLengths "1" "[0-9223372036854775807]") = .error (.badLengths .tooMany) := by
    rfl
  rw [read]
  rintro (⟨t, ⟨⟩⟩ | ⟨fault, ⟨⟩, kind⟩)
  exact absurd kind (by decide)

end Territory

end NumberingPlan
