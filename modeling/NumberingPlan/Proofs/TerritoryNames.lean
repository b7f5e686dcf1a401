import NumberingPlan.Proofs.DocumentAttributes
import NumberingPlan.Proofs.NamedValues
import NumberingPlan.Proofs.RegistryRequests
import NumberingPlan.Proofs.SessionSteps
import NumberingPlan.Proofs.TerritoryLayout
import NumberingPlan.Proofs.WireReading
import NumberingPlan.Build

/-! The names of what a territory lists. Markup and registries have tables of names of their own, yet a territory
of either lists its descriptions in the order of the kinds of number, each at most once, and its attributes each
once and none under the name of a field. So a look-up, which takes the first of a name, finds everything that is
listed, also when the territory was written and read back in between. What a build loads is of this kind, since no
element of a document repeats an attribute. -/
namespace NumberingPlan

namespace Territory

/-- What territories are made from: an element that repeats no attribute, or an entry of a registry. -/
inductive Made : Territory → Prop where
  | ofElement {e : Xml.Element} (once : (e.attributes.map Prod.fst).Nodup)
      (read : Territory.ofElement lite e = .ok t) : Made t
  | ofEntry (lite : Bool) (e : RegistryEntry) : Made (e.toTerritory lite)

/-- Descriptions are named as the kinds of number are listed and attributes as no field is, each name once. -/
structure WellNamed (t : Territory) : Prop where
  inOrder : (t.descriptions.map Prod.fst).Sublist descriptionNames
  describedOnce : (t.descriptions.map Prod.fst).Nodup
  givenOnce : (t.attributes.map Prod.fst).Nodup
  noField : ∀ field ∈ ["id", "countryCode", "mainCountryForCode"], field ∉ t.attributes.map Prod.fst

/-- A look-up finds what is listed under a name, and nothing under any other name. -/
structure FoundByName (t : Territory) : Prop where
  describes : ∀ name d, t.description? name = some d ↔ (name, d) ∈ t.descriptions
  gives : ∀ name value, t.attribute? name = some value ↔ (name, value) ∈ t.attributes
  describesNoOther : ∀ name, t.description? name = none ↔ name ∉ t.descriptions.map Prod.fst
  givesNoOther : ∀ name, t.attribute? name = none ↔ name ∉ t.attributes.map Prod.fst

variable {t : Territory} {ts : List Territory} {lite : Bool}

/-! ### Names in each source -/

private theorem descriptionNames_nodup : descriptionNames.Nodup := by
  decide

private theorem wellNamed_of_inOrder (inOrder : (t.descriptions.map Prod.fst).Sublist descriptionNames)
    (givenOnce : (t.attributes.map Prod.fst).Nodup)
    (noField : ∀ field ∈ fieldNames, field ∉ t.attributes.map Prod.fst) : t.WellNamed :=
  ⟨inOrder, descriptionNames_nodup.sublist inOrder, givenOnce, noField⟩

/-- The territory of an element is well named if the element repeats no attribute. -/
theorem wellNamed_of_element {e : Xml.Element} (once : (e.attributes.map Prod.fst).Nodup)
    (read : ofElement lite e = .ok t) : t.WellNamed := by
  obtain ⟨given, described, -⟩ := ofElement_eq_ok read
  apply wellNamed_of_inOrder
  · rw [names_of_descriptions described]
    exact List.filter_sublist
  · rw [given]
    exact once.sublist (List.filter_sublist.map Prod.fst)
  · intro field known listed
    rw [given] at listed
    obtain ⟨pair, kept, rfl⟩ := List.mem_map.mp listed
    have unknown := (List.mem_filter.mp kept).2
    rw [Bool.not_eq_true', List.contains_eq_mem, decide_eq_false_iff_not] at unknown
    exact unknown known

/-- The names that the attributes of an entry's territory may have. -/
def entryAttributeNames : List String := RegistryEntry.textNames ++ ["mobileNumberPortableRegion"]

private theorem entryAttributeNames_nodup : entryAttributeNames.Nodup := by
  decide

private theorem entryAttributeNames_no_field : ∀ field ∈ fieldNames, field ∉ entryAttributeNames := by
  decide

/-- An entry's names of descriptions are kinds of number, in the order in which those are listed. -/
theorem entry_descriptionNames_sublist : RegistryEntry.descriptionNames.Sublist descriptionNames := by
  decide

private theorem entry_attributes_sublist (e : RegistryEntry) :
    (e.attributes.map Prod.fst).Sublist entryAttributeNames := by
  rw [RegistryEntry.attributes, List.map_append, RegistryEntry.select, names_of_found]
  apply List.filter_sublist.append
  cases e.isPortable with
  | false => exact List.nil_sublist _
  | true => exact .refl _

private theorem names_of_entry_descriptions (lite : Bool) (e : RegistryEntry) :
    (e.toTerritory lite).descriptions.map Prod.fst =
      RegistryEntry.descriptionNames.filter fun name => (e.descriptions.lookup name).isSome := by
  rw [← names_of_found]
  exact List.map_map

/-- The territory of an entry is well named, whatever stands under which names in the entry. -/
theorem wellNamed_of_entry (lite : Bool) (e : RegistryEntry) : (e.toTerritory lite).WellNamed := by
  have listed := entry_attributes_sublist e
  apply wellNamed_of_inOrder
  · rw [names_of_entry_descriptions]
    exact List.filter_sublist.trans entry_descriptionNames_sublist
  · exact entryAttributeNames_nodup.sublist listed
  · intro field known given
    exact entryAttributeNames_no_field field known (listed.subset given)

private theorem Made.wellNamed (made : Made t) : t.WellNamed := by
  cases made with
  | ofElement once read => exact wellNamed_of_element once read
  | ofEntry lite e => exact wellNamed_of_entry lite e

/-! ### Look-ups -/

private theorem WellNamed.foundByName (wellNamed : t.WellNamed) : t.FoundByName where
  describes _ _ := lookup_eq_some_iff_mem wellNamed.describedOnce
  gives _ _ := lookup_eq_some_iff_mem wellNamed.givenOnce
  describesNoOther _ := lookup_eq_none_iff_not_mem
  givesNoOther _ := lookup_eq_none_iff_not_mem

/-- A territory that is made from an element without repeated attributes or from an entry of a registry is well
named, and look-ups in it find exactly what it lists. The same holds of the territory that is read in its place
from the payload of any collection that it was written in. -/
theorem listed_members_are_found_by_name (made : Made t) :
    t.WellNamed ∧ t.FoundByName ∧
      ∀ (ts : List Territory) (payload : List UInt8) (i : Nat), ts[i]? = some t → Wire.encode ts = .ok payload →
        ∃ read t', Wire.decode payload = .ok read ∧ read[i]? = some t' ∧ t'.WellNamed ∧ t'.FoundByName := by
  have wellNamed := made.wellNamed
  refine ⟨wellNamed, wellNamed.foundByName, ?_⟩
  intro ts payload i here written
  have read : Wire.decode payload = .ok ts := (Wire.decode_eq_ok_iff payload ts).mpr (Wire.encode_spells written)
  exact ⟨ts, t, read, here, wellNamed, wellNamed.foundByName⟩

/-- An element with fields among its attributes, a kind of number before one that is listed earlier, and two
descriptions of one kind. -/
def jersey : Xml.Element :=
  .node "territory" [("id", "JE"), ("leadingDigits", "1534"), ("countryCode", "44"), ("nationalPrefix", "0")] ""
    [.node "mobile" [] "" [.node "nationalNumberPattern" [] "7\\d{9}" []],
      .node "generalDesc" [] "" [.node "possibleLengths" [("national", "10")] "" []],
      .node "mobile" [] "" []]

/-- The territory that the element gives. -/
def jerseyTerritory : Territory where
  id := "JE"
  countryCode := 44
  isMain := false
  attributes := [("leadingDigits", "1534"), ("nationalPrefix", "0")]
  descriptions := [("generalDesc", ⟨none, none, [10], []⟩), ("mobile", ⟨some "7\\d{9}", none, [], []⟩)]
  formats := []

/-- An entry in which a text and a description stand under names that are not taken over, and two texts under
one name. -/
def satellite : RegistryEntry where
  id := "001"
  countryCode := some 881
  isMain := false
  isPortable := true
  texts := [("leadingDigits", "6"), ("id", "SAT"), ("internationalPrefix", "00"), ("leadingDigits", "8")]
  descriptions := [("mobile", ⟨some "6\\d{8}", none, [9], []⟩), ("emergency", ⟨some "112", none, [3], []⟩)]
  formats := []
  internationalFormats := []

/-- In both territories look-ups find what is listed and no field, also after both were written and read. -/
theorem members_of_jersey_and_satellite_are_found :
    (jersey.attributes.map Prod.fst).Nodup ∧ ofElement false jersey = .ok jerseyTerritory ∧
    jerseyTerritory.description? "mobile" = some ⟨some "7\\d{9}", none, [], []⟩ ∧
    jerseyTerritory.attribute? "leadingDigits" = some "1534" ∧ jerseyTerritory.attribute? "countryCode" = none ∧
    (satellite.toTerritory false).attribute? "id" = none ∧
    (satellite.toTerritory false).description? "emergency" = none ∧
    ∃ payload read t', Wire.encode [satellite.toTerritory false, jerseyTerritory] = .ok payload ∧
      Wire.decode payload = .ok read ∧ read[1]? = some t' ∧ t'.WellNamed ∧ t'.FoundByName := by
  have once : (jersey.attributes.map Prod.fst).Nodup := by decide
  have read : ofElement false jersey = .ok jerseyTerritory := by decide +kernel
  obtain ⟨payload, written⟩ := fault?_eq_none_iff.mp
    (show fault? (Wire.encode [satellite.toTerritory false, jerseyTerritory]) = none by decide)
  obtain ⟨-, found, readBack⟩ := listed_members_are_found_by_name (.ofElement once read)
  obtain ⟨-, foundInEntry, -⟩ := listed_members_are_found_by_name (.ofEntry false satellite)
  obtain ⟨others, t', decoded, here, again⟩ := readBack _ payload 1 rfl written
  refine ⟨once, read, ?_, ?_, ?_, ?_, ?_, payload, others, t', written, decoded, here, again⟩
  · exact (found.describes _ _).mpr (by decide)
  · exact (found.gives _ _).mpr (by decide)
  · exact (found.givesNoOther _).mpr (by decide)
  · exact (foundInEntry.givesNoOther _).mpr (by decide)
  · exact (foundInEntry.describesNoOther _).mpr (by decide)

/-! ### What is loaded -/

/-- The territories of a document are made from elements that repeat no attribute. -/
theorem ofDocument_made {bytes : List UInt8} {root : Xml.Element} (parsed : Xml.parse bytes = .ok root)
    (read : ofDocument lite root = .ok ts) : ∀ t ∈ ts, Made t := by
  intro t member
  obtain ⟨e, among, read⟩ := exists_member_of_mapM read t member
  obtain ⟨outer, block, inner⟩ := List.mem_flatMap.mp among
  have unrepeated := ((Xml.parse_unrepeated parsed).childrenNamed _ outer block).childrenNamed _ e inner
  exact .ofElement unrepeated.attributes read

private theorem load_made {registry : Registry} {regions : Option (List String)} {codes : Option (List Int)}
    (answered : registry.load regions codes lite = .ok ts) : ∀ t ∈ ts, Made t := by
  intro t member
  rw [Registry.load_eq] at answered
  obtain ⟨key, -, answered⟩ := exists_member_of_mapM answered t member
  obtain ⟨e, -, rfl⟩ := Registry.answer_eq_ok_iff.mp answered
  exact .ofEntry lite e

end Territory

namespace Build

variable {ts : List Territory} {w after : Workspace} {lite : Bool}

private theorem loadFile_made {path : Storage.Path} (ran : (loadFile path lite).run w = .ok ts after) :
    ∀ t ∈ ts, Territory.Made t := by
  unfold loadFile at ran
  obtain ⟨bytes, opened, -, ran⟩ := Session.bind_ok ran
  obtain ⟨root, parsed, parses, ran⟩ := Session.bind_ok ran
  obtain ⟨found, taken, takes, ran⟩ := Session.bind_ok ran
  obtain ⟨_, logged, -, ran⟩ := Session.bind_ok ran
  cases ran
  exact Territory.ofDocument_made (Session.lift_eq_ok parses).1 (Session.lift_eq_ok takes).1

private theorem loadRegistry_made {registry : Registry} {regions : Option (List String)} {codes : Option (List Int)}
    (ran : (loadRegistry registry regions codes lite).run w = .ok ts after) : ∀ t ∈ ts, Territory.Made t := by
  unfold loadRegistry at ran
  obtain ⟨found, answered, answers, ran⟩ := Session.bind_ok ran
  obtain ⟨_, logged, -, ran⟩ := Session.bind_ok ran
  cases ran
  exact Territory.load_made (Session.lift_eq_ok answers).1

/-- Whatever a build loads is well named and found by name. -/
theorem loadInput_found_by_name {registry : Registry} {options : Options}
    (ran : (loadInput registry options).run w = .ok ts after) : ∀ t ∈ ts, t.WellNamed ∧ t.FoundByName := by
  have made : ∀ t ∈ ts, Territory.Made t := by
    unfold loadInput at ran
    split at ran
    · exact loadRegistry_made ran
    · split at ran
      · cases ran
      · exact loadFile_made ran
  intro t member
  have wellNamed := (made t member).wellNamed
  exact ⟨wellNamed, wellNamed.foundByName⟩

end Build

end NumberingPlan
