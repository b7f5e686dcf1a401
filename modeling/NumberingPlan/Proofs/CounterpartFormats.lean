import Mathlib.Data.List.Forall2
import NumberingPlan.Territory.Registry

/-! International formats and the national formats that they are written for. An entry keeps the two in
lists of their own, which are joined by pattern alone. So a national format has the text of its own
counterpart unless another of the same pattern has a counterpart too; of all these texts the last one
goes to every national format of the pattern. -/
namespace NumberingPlan.RegistryEntry

/-- An international format is the counterpart of a national one: they have one pattern and the same
leading digits. -/
def Counterpart (g : InternationalFormat) (f : DomesticFormat) : Prop :=
  g.pattern = f.pattern ∧ g.leadingDigits = f.leadingDigits

instance (g : InternationalFormat) (f : DomesticFormat) : Decidable (Counterpart g f) :=
  inferInstanceAs (Decidable (_ ∧ _))

/-- How a national format should be written from abroad: as its counterpart says, and not at all
without one. -/
def WrittenAbroad (e : RegistryEntry) (f : DomesticFormat) (text : Option String) : Prop :=
  (∃ g ∈ e.internationalFormats, Counterpart g f ∧ text = g.format) ∨
    (∀ g ∈ e.internationalFormats, ¬Counterpart g f) ∧ text = some "NA"

instance (e : RegistryEntry) (f : DomesticFormat) (text : Option String) :
    Decidable (WrittenAbroad e f text) := inferInstanceAs (Decidable (_ ∨ _))

/-- The last international format of a pattern gives its text to the pattern. -/
theorem intlFormat_of_last {e : RegistryEntry} (split : e.internationalFormats = before ++ g :: after)
    (same : g.pattern = pattern) (last : ∀ later ∈ after, later.pattern ≠ pattern) :
    e.intlFormat pattern = g.format := by
  have found : e.internationalFormats.reverse.find? (·.pattern == pattern) = some g := by
    rw [split, List.reverse_append, List.reverse_cons, List.append_assoc, List.find?_append,
      List.find?_eq_none.mpr (by simpa using last)]
    simp [same]
  rw [intlFormat, if_neg (by simp [split]), found]

private theorem intlFormat_of_absent {e : RegistryEntry} (listed : e.internationalFormats ≠ [])
    (absent : ∀ g ∈ e.internationalFormats, g.pattern ≠ pattern) : e.intlFormat pattern = some "NA" := by
  have nothing : e.internationalFormats.reverse.find? (·.pattern == pattern) = none :=
    List.find?_eq_none.mpr (by simpa using absent)
  rw [intlFormat, if_neg (by simpa using listed), nothing]

/-- A pattern has the text of an international format that has it, or none has it. -/
theorem intlFormat_cases {e : RegistryEntry} (listed : e.internationalFormats ≠ []) (pattern : String) :
    (∃ g ∈ e.internationalFormats, g.pattern = pattern ∧ e.intlFormat pattern = g.format) ∨
      (∀ g ∈ e.internationalFormats, g.pattern ≠ pattern) ∧ e.intlFormat pattern = some "NA" := by
  cases found : e.internationalFormats.reverse.find? (·.pattern == pattern) with
  | none =>
    have absent : ∀ g ∈ e.internationalFormats, g.pattern ≠ pattern := by
      simpa using List.find?_eq_none.mp found
    exact .inr ⟨absent, intlFormat_of_absent listed absent⟩
  | some g =>
    have member := List.mem_reverse.mp (List.mem_of_find?_eq_some found)
    have same : g.pattern = pattern := by simpa using List.find?_some found
    refine .inl ⟨g, member, same, ?_⟩
    rw [intlFormat, if_neg (by simpa using listed), found]

/-- What a national format becomes in the territory of its entry. -/
structure JoinedByPattern (e : RegistryEntry) (f : DomesticFormat) (made : NumberFormat) : Prop where
  kept : made.pattern = f.pattern ∧ made.format = f.format ∧ made.leadingDigits = f.leadingDigits
  last : ∀ before g after, e.internationalFormats = before ++ g :: after → g.pattern = f.pattern →
    (∀ later ∈ after, later.pattern ≠ f.pattern) → made.intlFormat = g.format
  absent : (∀ g ∈ e.internationalFormats, g.pattern ≠ f.pattern) → made.intlFormat = some "NA"
  own : (∀ other ∈ e.formats, other.pattern = f.pattern → other.leadingDigits ≠ f.leadingDigits →
    ∀ g ∈ e.internationalFormats, ¬Counterpart g other) → WrittenAbroad e f made.intlFormat

/-- The formats of a territory are the national formats of its entry in their order. Each is written from
abroad as the last international format of its pattern says. Where every international format is a
counterpart, that is its own counterpart, or it has none, unless another national format of its pattern
has one. -/
theorem formats_are_joined_by_pattern (e : RegistryEntry) (lite : Bool)
    (listed : e.internationalFormats ≠ [])
    (matched : ∀ g ∈ e.internationalFormats, ∃ f ∈ e.formats, Counterpart g f) :
    List.Forall₂ (JoinedByPattern e) e.formats (e.toTerritory lite).formats := by
  refine List.forall₂_map_right_iff.mpr (List.forall₂_same.mpr fun f _ => ⟨⟨rfl, rfl, rfl⟩, ?_, ?_, ?_⟩)
  · intro before g after split same last
    exact intlFormat_of_last split same last
  · intro absent
    exact intlFormat_of_absent listed absent
  · intro alone
    change WrittenAbroad e f (e.intlFormat f.pattern)
    rcases intlFormat_cases listed f.pattern with ⟨g, member, same, text⟩ | ⟨absent, text⟩
    · obtain ⟨f', national, pattern, digits⟩ := matched g member
      have shared : f'.pattern = f.pattern := pattern.symm.trans same
      by_cases digits' : f'.leadingDigits = f.leadingDigits
      · exact .inl ⟨g, member, ⟨same, digits.trans digits'⟩, text⟩
      · exact absurd ⟨pattern, digits⟩ (alone f' national shared digits' g member)
    · exact .inr ⟨fun g member counterpart => absent g member counterpart.1, text⟩

/-- Three national formats, two of them of one pattern. Only the second has a counterpart. -/
def sharedPattern : RegistryEntry where
  id := "US"
  countryCode := some 1
  isMain := true
  isPortable := false
  texts := []
  descriptions := []
  formats := [⟨"(\\d+)", ["310"], "$1", none, false, none⟩, ⟨"(\\d+)", ["[24-9]"], "0 $1", none, false, none⟩,
    ⟨"(\\d)(\\d+)", [], "$1 $2", none, false, none⟩]
  internationalFormats := [⟨"(\\d+)", ["[24-9]"], some "1 $1"⟩]

/-- The format with the counterpart and the one of another pattern are written from abroad as they should. -/
theorem formats_after_the_first_have_their_texts :
    List.Forall₂ (WrittenAbroad sharedPattern) (sharedPattern.formats.drop 1)
      (((sharedPattern.toTerritory false).formats.drop 1).map (·.intlFormat)) := by
  cases formats_are_joined_by_pattern sharedPattern false (by decide) (by decide) with
  | cons first rest =>
    cases rest with
    | cons second rest =>
      cases rest with
      | cons third rest =>
        cases rest
        exact .cons (second.own (by decide)) (.cons (third.own (by decide)) .nil)

/-- The format without a counterpart is written as that of the other format of its pattern. -/
theorem text_of_another_format_is_taken :
    sharedPattern.internationalFormats ≠ [] ∧
    (∀ g ∈ sharedPattern.internationalFormats, (sharedPattern.formats.filter (Counterpart g ·)).length = 1) ∧
    (sharedPattern.formats.map fun f => (f.pattern, f.leadingDigits)).Nodup ∧
    (sharedPattern.toTerritory false).formats.map (·.intlFormat) = [some "1 $1", some "1 $1", some "NA"] ∧
    ∃ f ∈ sharedPattern.formats, ¬WrittenAbroad sharedPattern f (sharedPattern.format f).intlFormat := by
  decide

end NumberingPlan.RegistryEntry
