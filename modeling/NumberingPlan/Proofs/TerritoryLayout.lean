import Mathlib.Data.List.Forall2
import Mathlib.Logic.Relation
import NumberingPlan.Proofs.ElementEdits
import NumberingPlan.Proofs.ListReading
import NumberingPlan.Proofs.NamedValues
import NumberingPlan.Territory.Markup

/-! The layout of an element does not matter to the territory that it gives. Children that are not looked
for, the order of neighbours with different names, later children of a described kind and blanks in patterns,
examples and leading digits may all differ, and the outcome stays the same. What it gives is in order:
descriptions as the kinds of number are listed, formats as they stand in the document. -/
namespace NumberingPlan.Territory

open Xml

/-- The edits that keep the outcome. -/
inductive Edit : Element → Element → Prop where
  /-- A child that is neither a description nor holds formats is inserted. -/
  | insertion (x : Element) (undescribed : x.name ∉ descriptionNames) (formatless : x.name ≠ "availableFormats") :
      Edit (.node name given text (front ++ back)) (.node name given text (front ++ x :: back))
  /-- Neighbours of different names are exchanged, among the children or deeper. -/
  | exchange (exchanged : Exchanged e e') : Edit e e'
  /-- A description is inserted after another of its name. -/
  | repetition (x : Element) (described : x.name ∈ descriptionNames) (first : ∃ y ∈ front, y.name = x.name) :
      Edit (.node name given text (front ++ back)) (.node name given text (front ++ x :: back))
  /-- A blank is inserted into the text of a description's pattern or example. -/
  | blankInDescription (described : kind ∈ descriptionNames)
      (squeezed : part ∈ ["nationalNumberPattern", "exampleNumber"])
      (within : Within kind (Within part Spaced) e e') : Edit e e'
  /-- A blank is inserted into the text of a format's leading digits. -/
  | blankInFormat
      (within : Within "availableFormats" (Within "numberFormat" (Within "leadingDigits" Spaced)) e e') :
      Edit e e'

variable {e e' : Element} {lite : Bool}

/-! What is read of an element. -/

private theorem lengthsIn_congr {o o' : Option Element} (same : o'.map Element.attributes = o.map Element.attributes)
    (name : String) : lengthsIn o' name = lengthsIn o name := by
  have looked (o : Option Element) :
      (o.bind fun e => e.attribute? name) = (o.map Element.attributes).bind (List.lookup name) := by
    cases o <;> rfl
  unfold lengthsIn
  rw [looked o', looked o, same]

private theorem childText?_squeeze (e : Element) (name : String) : (e.childText? name).map Text.squeeze =
    ((e.childrenNamed name).map fun x => Text.squeeze x.text).head? := by
  rw [Element.childText?, Option.map_map, ← Element.child?_map]
  rfl

/-- A description is read from the attributes of its lengths and the squeezed texts of its pattern and
example. -/
theorem descriptionOf_congr (lite : Bool)
    (lengths : (e'.childrenNamed "possibleLengths").map Element.attributes =
      (e.childrenNamed "possibleLengths").map Element.attributes)
    (texts : ∀ part ∈ ["nationalNumberPattern", "exampleNumber"],
      ((e'.childrenNamed part).map fun x => Text.squeeze x.text) =
        (e.childrenNamed part).map fun x => Text.squeeze x.text) :
    descriptionOf lite e' = descriptionOf lite e := by
  have attributes : (e'.child? "possibleLengths").map Element.attributes =
      (e.child? "possibleLengths").map Element.attributes := by
    rw [Element.child?_map, Element.child?_map, lengths]
  unfold descriptionOf
  simp only [lengthsIn_congr attributes, childText?_squeeze, texts "nationalNumberPattern" (by decide),
    texts "exampleNumber" (by decide)]

/-- A format is read from its attributes, its texts and its squeezed leading digits. -/
theorem formatOf_congr (attributes : e'.attributes = e.attributes)
    (texts : ∀ part ∈ ["format", "intlFormat"],
      (e'.childrenNamed part).map Element.text = (e.childrenNamed part).map Element.text)
    (digits : ((e'.childrenNamed "leadingDigits").map fun x => Text.squeeze x.text) =
      (e.childrenNamed "leadingDigits").map fun x => Text.squeeze x.text) :
    formatOf e' = formatOf e := by
  unfold formatOf Element.childText? Element.attribute?
  rw [Element.child?_map, Element.child?_map, Element.child?_map, Element.child?_map, attributes, digits,
    texts "format" (by decide), texts "intlFormat" (by decide)]

/-- What the formats of one block are read as. -/
def blockFormats (e : Element) : List (Except MarkupFault NumberFormat) :=
  (e.childrenNamed "numberFormat").map formatOf

/-- An element is read from its attributes, from the first child of every described kind, and from its blocks
of formats. -/
theorem ofElement_congr (attributes : e'.attributes = e.attributes)
    (descriptions : ∀ name ∈ descriptionNames,
      (e'.child? name).map (descriptionOf lite) = (e.child? name).map (descriptionOf lite))
    (formats : (e'.childrenNamed "availableFormats").map blockFormats =
      (e.childrenNamed "availableFormats").map blockFormats) :
    ofElement lite e' = ofElement lite e := by
  have described : descriptionsOf lite e' descriptionNames = descriptionsOf lite e descriptionNames := by
    refine mapM_eq_of_map_eq ?_
    rw [List.map_filterMap, List.map_filterMap]
    refine List.filterMap_congr fun name member => ?_
    have same := congrArg (Option.map fun read => do return (name, ← read)) (descriptions name member)
    simp only [Option.map_map] at same ⊢
    exact same
  have formatted : (formatElements e').mapM formatOf = (formatElements e).mapM formatOf := by
    refine mapM_eq_of_map_eq ?_
    have blocks (e : Element) : (formatElements e).map formatOf =
        ((e.childrenNamed "availableFormats").map blockFormats).flatten := by
      rw [formatElements, List.map_flatMap, List.flatMap_def]
      rfl
    rw [blocks, blocks, formats]
  unfold ofElement Element.attribute?
  rw [attributes, described, formatted]

/-! What the edits leave as it was. -/

private theorem exchanged_description (exchanged : Exchanged e e') : descriptionOf lite e' = descriptionOf lite e := by
  refine descriptionOf_congr lite ?_ fun part _ => ?_
  · exact exchanged.childrenNamed _ fun _ _ => Exchanged.attributes_eq
  · exact exchanged.childrenNamed part fun _ _ inside => congrArg Text.squeeze inside.text_eq

private theorem exchanged_format (exchanged : Exchanged e e') : formatOf e' = formatOf e := by
  refine formatOf_congr exchanged.attributes_eq (fun part _ => ?_) ?_
  · exact exchanged.childrenNamed part fun _ _ => Exchanged.text_eq
  · exact exchanged.childrenNamed _ fun _ _ inside => congrArg Text.squeeze inside.text_eq

private theorem exchanged_territory (exchanged : Exchanged e e') : ofElement lite e' = ofElement lite e := by
  refine ofElement_congr exchanged.attributes_eq (fun name _ => ?_) ?_
  · rw [Element.child?_map, Element.child?_map,
      exchanged.childrenNamed name fun _ _ => exchanged_description]
  · exact exchanged.childrenNamed _ fun _ _ inside => inside.childrenNamed _ fun _ _ => exchanged_format

private theorem spaced_description (within : Within part Spaced e e') :
    descriptionOf lite e' = descriptionOf lite e := by
  refine descriptionOf_congr lite ?_ fun other _ => ?_
  · exact within.childrenNamed _ fun _ _ _ => Spaced.attributes_eq
  · exact within.childrenNamed other fun _ _ _ => Spaced.squeeze_eq

private theorem spaced_format (within : Within "leadingDigits" Spaced e e') : formatOf e' = formatOf e := by
  refine formatOf_congr within.attributes_eq (fun part text => ?_) ?_
  · refine within.childrenNamed part fun digits => ?_
    subst digits
    exact absurd text (by decide)
  · exact within.childrenNamed _ fun _ _ _ => Spaced.squeeze_eq

private theorem availableFormats_undescribed : "availableFormats" ∉ descriptionNames := by
  decide

/-- An edit keeps the outcome. -/
theorem Edit.ofElement_eq (edit : Edit e e') : ofElement lite e' = ofElement lite e := by
  cases edit with
  | insertion x undescribed formatless =>
    refine ofElement_congr rfl (fun name described => ?_) ?_
    · have other : x.name ≠ name := by
        rintro rfl
        exact undescribed described
      rw [Element.child?_eq_head?, Element.child?_eq_head?, childrenNamed_inserted other]
    · rw [childrenNamed_inserted formatless]
  | exchange exchanged => exact exchanged_territory exchanged
  | repetition x described first =>
    refine ofElement_congr rfl (fun name _ => ?_) ?_
    · by_cases same : x.name = name
      · subst same
        rw [child?_of_front first, child?_of_front first]
      · rw [Element.child?_eq_head?, Element.child?_eq_head?, childrenNamed_inserted same]
    · have other : x.name ≠ "availableFormats" := by
        intro same
        exact availableFormats_undescribed (same ▸ described)
      rw [childrenNamed_inserted other]
  | blankInDescription described squeezed within =>
    refine ofElement_congr within.attributes_eq (fun name _ => ?_) ?_
    · rw [Element.child?_map, Element.child?_map, within.childrenNamed name fun _ _ _ => spaced_description]
    · refine within.childrenNamed _ fun same => ?_
      exact absurd (same ▸ described) availableFormats_undescribed
  | blankInFormat within =>
    refine ofElement_congr within.attributes_eq (fun name described => ?_) ?_
    · rw [Element.child?_map, Element.child?_map, within.childrenNamed name fun same => ?_]
      exact absurd (same ▸ described) availableFormats_undescribed
    · exact within.childrenNamed _ fun _ _ _ inside => inside.childrenNamed _ fun _ _ _ => spaced_format

/-- Any number of edits, made or undone, keep the outcome. -/
theorem ofElement_of_edits (edits : Relation.EqvGen Edit e e') : ofElement lite e' = ofElement lite e := by
  induction edits with
  | rel e e' edit => exact edit.ofElement_eq
  | refl e => rfl
  | symm e e' _ ih => exact ih.symm
  | trans e e' e'' _ _ first second => exact second.trans first

/-! What a territory holds. -/

theorem ofElement_eq_ok (read : ofElement lite e = .ok t) :
    t.attributes = e.attributes.filter (fun (name, _) => !fieldNames.contains name) ∧
    descriptionsOf lite e descriptionNames = .ok t.descriptions ∧ (formatElements e).mapM formatOf = .ok t.formats := by
  unfold ofElement at read
  obtain ⟨code, -, read⟩ := bind_eq_ok read
  obtain ⟨descriptions, described, read⟩ := bind_eq_ok read
  obtain ⟨formats, formatted, read⟩ := bind_eq_ok read
  cases read
  exact ⟨rfl, described, formatted⟩

/-- The first children of the described kinds, in the order of the kinds. -/
def describedChildren (e : Element) : List (String × Element) :=
  descriptionNames.filterMap fun name => (e.child? name).map fun child => (name, child)

private theorem describedChildren_names (e : Element) :
    (describedChildren e).map Prod.fst = descriptionNames.filter fun name => (e.child? name).isSome := by
  rw [describedChildren, names_of_found]

private theorem mem_describedChildren (member : child ∈ describedChildren e) : e.child? child.1 = some child.2 := by
  obtain ⟨name, -, found⟩ := List.mem_filterMap.mp member
  obtain ⟨x, first, rfl⟩ := Option.map_eq_some_iff.mp found
  exact first

private theorem entry_of_child {child : String × Element} {entry : String × NumberDesc}
    (read : (do return (child.1, ← descriptionOf lite child.2)) = Except.ok entry) :
    child.1 = entry.1 ∧ descriptionOf lite child.2 = .ok entry.2 := by
  obtain ⟨d, described, read⟩ := bind_eq_ok read
  cases read
  exact ⟨rfl, described⟩

theorem names_of_descriptions {entries : List (String × NumberDesc)}
    (read : descriptionsOf lite e descriptionNames = .ok entries) :
    entries.map Prod.fst = descriptionNames.filter fun name => (e.child? name).isSome := by
  have same : List.Forall₂ (· = ·) ((describedChildren e).map Prod.fst) (entries.map Prod.fst) := by
    rw [List.forall₂_map_left_iff, List.forall₂_map_right_iff]
    exact (mapM_eq_ok_iff.mp read).imp fun child entry read => (entry_of_child read).1
  rw [List.forall₂_eq_eq_eq] at same
  rw [← same, describedChildren_names]

private theorem description_of_first_child {entries : List (String × NumberDesc)}
    (read : descriptionsOf lite e descriptionNames = .ok entries) :
    ∀ entry ∈ entries, ∃ child, e.child? entry.1 = some child ∧ descriptionOf lite child = .ok entry.2 := by
  intro entry member
  obtain ⟨child, among, read⟩ := exists_member_of_mapM read entry member
  obtain ⟨named, described⟩ := entry_of_child read
  exact ⟨child.2, named ▸ mem_describedChildren among, described⟩

/-- A text without blanks. -/
def Blankless (text : String) : Prop := ∀ c ∈ text.toList, Text.isBlank c = false

private theorem blankless_squeeze (text : String) : Blankless (Text.squeeze text) := by
  intro c member
  simp only [Text.squeeze, String.toList_ofList, List.mem_filter, Bool.not_eq_true'] at member
  exact member.2

private theorem descriptionOf_blankless (read : descriptionOf lite e = .ok d) :
    (∀ text, d.pattern = some text → Blankless text) ∧ ∀ text, d.exampleNumber = some text → Blankless text := by
  have squeezed {o : Option String} (text : String) (held : o.map Text.squeeze = some text) : Blankless text := by
    obtain ⟨original, -, rfl⟩ := Option.map_eq_some_iff.mp held
    exact blankless_squeeze original
  unfold descriptionOf at read
  obtain ⟨lengths, -, read⟩ := bind_eq_ok read
  obtain ⟨localLengths, -, read⟩ := bind_eq_ok read
  cases read
  refine ⟨squeezed, fun text held => ?_⟩
  cases lite with
  | true => cases held
  | false => exact squeezed text held

private theorem formatOf_blankless (read : formatOf e = .ok f) : ∀ text ∈ f.leadingDigits, Blankless text := by
  intro text member
  unfold formatOf at read
  split at read
  · cases read
    obtain ⟨d, -, rfl⟩ := List.mem_map.mp member
    exact blankless_squeeze d.text
  · cases read

/-- What comes of an element: texts without blanks, descriptions in the order of the kinds of number and each
read from the first child of its kind, and formats in document order. -/
structure InOrder (lite : Bool) (e : Element) (t : Territory) : Prop where
  descriptionTexts : ∀ entry ∈ t.descriptions, (∀ text, entry.2.pattern = some text → Blankless text) ∧
    ∀ text, entry.2.exampleNumber = some text → Blankless text
  leadingDigits : ∀ f ∈ t.formats, ∀ text ∈ f.leadingDigits, Blankless text
  names : t.descriptions.map Prod.fst = descriptionNames.filter fun name => (e.child? name).isSome
  descriptions : ∀ entry ∈ t.descriptions, ∃ child, e.child? entry.1 = some child ∧
    descriptionOf lite child = .ok entry.2
  documentOrder : (formatElements e).Sublist e.descendants
  formats : List.Forall₂ (fun element f => formatOf element = .ok f) (formatElements e) t.formats

private theorem inOrder_of_read (read : ofElement lite e = .ok t) : InOrder lite e t := by
  obtain ⟨-, described, formatted⟩ := ofElement_eq_ok read
  refine ⟨fun entry member => ?_, fun f member => ?_, names_of_descriptions described,
    description_of_first_child described, grandchildren_sublist e _ _, mapM_eq_ok_iff.mp formatted⟩
  · obtain ⟨child, -, read⟩ := description_of_first_child described entry member
    exact descriptionOf_blankless read
  · obtain ⟨element, -, read⟩ := exists_member_of_mapM formatted f member
    exact formatOf_blankless read

/-- The outcome of an element is that of every element that differs from it by edits of its layout, and what
comes of it is in order. -/
theorem layout_keeps_the_outcome (lite : Bool) (e : Element) :
    (∀ e', Relation.EqvGen Edit e e' → ofElement lite e' = ofElement lite e) ∧
    ∀ t, ofElement lite e = .ok t → InOrder lite e t :=
  ⟨fun _ => ofElement_of_edits, fun _ => inOrder_of_read⟩

/-- A mobile description with this pattern. -/
def mobileDesc (pattern : List Char) : Element :=
  .node "mobile" [] "" [.node "nationalNumberPattern" [] (String.ofList pattern) []]

def formatBlock : Element :=
  .node "availableFormats" [] "" [.node "numberFormat" [("pattern", "(\\d+)")] ""
    [.node "leadingDigits" [] "7 [1-9]" [], .node "format" [] "$1 0" []]]

/-- A territory with these children. -/
def britain (children : List Element) : Element :=
  .node "territory" [("id", "GB"), ("countryCode", "44")] "" children

/-- A child that nobody looks for, a description before the formats, another of its name after them and a
blank in its pattern leave the territory as it was. -/
theorem loose_layout_gives_the_territory :
    ofElement false (britain [.node "references" [] "" [], mobileDesc ['7', ' ', '5'], formatBlock, mobileDesc []]) =
      ofElement false (britain [formatBlock, mobileDesc ['7', '5']]) ∧
    ∃ t, ofElement false (britain [formatBlock, mobileDesc ['7', '5']]) = .ok t ∧
      InOrder false (britain [formatBlock, mobileDesc ['7', '5']]) t := by
  let unread : Element := .node "references" [] "" []
  let mobile := mobileDesc ['7', '5']
  have inserted : Edit (britain [formatBlock, mobile]) (britain [unread, formatBlock, mobile]) :=
    @Edit.insertion _ _ _ [] _ unread (by decide) (by decide)
  have exchanged : Edit (britain [unread, formatBlock, mobile]) (britain [unread, mobile, formatBlock]) :=
    .exchange (@Exchanged.children _ _ _ [unread] _ _ [] (by decide))
  have repeated : Edit (britain [unread, mobile, formatBlock])
      (britain [unread, mobile, formatBlock, mobileDesc []]) :=
    @Edit.repetition [unread, mobile, formatBlock] _ _ _ [] (mobileDesc []) (by decide) ⟨mobile, by simp, rfl⟩
  have spaced : Spaced (.node "nationalNumberPattern" [] (String.ofList ['7', '5']) [])
      (.node "nationalNumberPattern" [] (String.ofList ['7', ' ', '5']) []) :=
    @Spaced.blank ' ' _ _ ['7'] ['5'] _ rfl
  have blank : Edit (britain [unread, mobile, formatBlock, mobileDesc []])
      (britain [unread, mobileDesc ['7', ' ', '5'], formatBlock, mobileDesc []]) := by
    refine @Edit.blankInDescription "mobile" "nationalNumberPattern" _ _ (by decide) (by decide) ?_
    exact @Within.child _ _ mobile _ _ _ _ [unread] _ rfl rfl (@Within.child _ _ _ _ _ _ _ [] _ rfl rfl spaced)
  constructor
  · refine (layout_keeps_the_outcome false _).1 _ ?_
    exact .trans _ _ _ (.rel _ _ inserted) (.trans _ _ _ (.rel _ _ exchanged)
      (.trans _ _ _ (.rel _ _ repeated) (.rel _ _ blank)))
  · exact ⟨_, rfl, (layout_keeps_the_outcome false _).2 _ rfl⟩

end NumberingPlan.Territory
