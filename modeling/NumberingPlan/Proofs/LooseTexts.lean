import NumberingPlan.Proofs.WireLayout

/-! Texts that may hold halves of surrogate pairs, beside texts of characters. A loose text has a
spelling exactly if it is a text of characters, and then the spelling of that text. So a collection
of texts of characters is laid out and written the same in either type. -/
namespace NumberingPlan

namespace Utf8

/-- Code points have a spelling exactly if all of them are characters. -/
theorem spellFrom_eq_ok_iff {offset : Nat} {points : List CodePoint} {bytes : List UInt8} :
    spellFrom offset points = .ok bytes ↔
      ∃ cs : List Char, points = cs.map .character ∧ bytes = cs.flatMap encodeChar := by
  induction points generalizing offset bytes with
  | nil =>
    constructor
    · rintro ⟨⟩
      exact ⟨[], rfl, rfl⟩
    · rintro ⟨cs, none, rfl⟩
      rw [List.map_eq_nil_iff.mp none.symm]
      rfl
  | cons point points ih =>
    cases point with
    | half place =>
      constructor
      · rintro ⟨⟩
      · rintro ⟨_ | ⟨c, cs⟩, same, -⟩ <;> cases same
    | character c =>
      have step : spellFrom offset (.character c :: points) = .ok bytes ↔
          ∃ rest, spellFrom (offset + 1) points = .ok rest ∧ bytes = encodeChar c ++ rest := by
        rw [spellFrom]
        cases spellFrom (offset + 1) points <;> simp [Except.map, eq_comm]
      rw [step]
      constructor
      · rintro ⟨rest, spelled, rfl⟩
        obtain ⟨cs, rfl, rfl⟩ := ih.mp spelled
        exact ⟨c :: cs, rfl, rfl⟩
      · rintro ⟨_ | ⟨d, cs⟩, same, rfl⟩
        · cases same
        · obtain ⟨head, rest⟩ := List.cons.inj same
          cases head
          exact ⟨_, ih.mpr ⟨cs, rest, rfl⟩, rfl⟩

/-- A loose text has a spelling exactly if it is a text of characters, and then that text's. -/
theorem spell_eq_ok_iff {t : LooseText} {bytes : List UInt8} :
    spell t = .ok bytes ↔ ∃ s, t = LooseText.ofString s ∧ bytes = encode s := by
  refine spellFrom_eq_ok_iff.trans ?_
  constructor
  · rintro ⟨cs, same, rfl⟩
    refine ⟨String.ofList cs, ?_, by rw [encode, String.toList_ofList]⟩
    rw [LooseText.ofString, String.toList_ofList, ← same]
  · rintro ⟨s, rfl, rfl⟩
    exact ⟨s.toList, rfl, rfl⟩

theorem spell_ofString (s : String) : spell (LooseText.ofString s) = spell s :=
  spell_eq_ok_iff.mpr ⟨s, rfl, rfl⟩

end Utf8

/-- A description with its texts put in another type. -/
def NumberDesc.map {τ υ : Type} (f : τ → υ) (d : NumberDesc τ) : NumberDesc υ :=
  { pattern := d.pattern.map f
    exampleNumber := d.exampleNumber.map f
    lengths := d.lengths
    localLengths := d.localLengths }

/-- A format with its texts put in another type. -/
def NumberFormat.map {τ υ : Type} (f : τ → υ) (x : NumberFormat τ) : NumberFormat υ :=
  { pattern := f x.pattern
    format := f x.format
    leadingDigits := x.leadingDigits.map f
    intlFormat := x.intlFormat.map f
    nationalPrefixRule := x.nationalPrefixRule.map f
    nationalPrefixOptional := x.nationalPrefixOptional
    carrierCodeRule := x.carrierCodeRule.map f }

/-- A territory with its texts put in another type. -/
def Territory.map {τ υ : Type} (f : τ → υ) (t : Territory τ) : Territory υ :=
  { id := f t.id
    countryCode := t.countryCode
    isMain := t.isMain
    attributes := t.attributes.map fun named => (f named.1, f named.2)
    descriptions := t.descriptions.map fun named => (f named.1, named.2.map f)
    formats := t.formats.map (NumberFormat.map f) }

namespace Wire

section
variable {τ υ : Type} [Utf8.Spelled τ] [Utf8.Spelled υ] {f : τ → υ} (same : ∀ s, Utf8.spell (f s) = Utf8.spell s)
include same

private theorem layout_text_map (s : τ) : Layout.text (f s) = Layout.text s := by
  rw [Layout.text, Layout.text, same]

private theorem layout_optionalText_map (s : Option τ) :
    Layout.optionalText (s.map f) = Layout.optionalText s := by
  cases s with
  | none => rfl
  | some s => simp only [Layout.optionalText, Option.map_some, Option.isSome_some, Option.elim, layout_text_map same]

omit [Utf8.Spelled τ] [Utf8.Spelled υ] same in
private theorem layout_counted_map {α β : Type} {g : α → β} {layout : α → List Item} {layout' : β → List Item}
    (alike : ∀ a, layout' (g a) = layout a) (members : List α) :
    Layout.counted layout' (members.map g) = Layout.counted layout members := by
  simp only [Layout.counted, List.length_map, List.flatMap_map, alike]

private theorem layout_desc_map (d : NumberDesc τ) : Layout.desc (d.map f) = Layout.desc d := by
  simp only [Layout.desc, NumberDesc.map, layout_optionalText_map same]

private theorem layout_format_map (x : NumberFormat τ) : Layout.format (x.map f) = Layout.format x := by
  simp only [Layout.format, NumberFormat.map, layout_text_map same, layout_optionalText_map same,
    layout_counted_map (layout_text_map same)]

private theorem layout_territory_map (t : Territory τ) : Layout.territory (t.map f) = Layout.territory t := by
  have attr (named : τ × τ) : Layout.namedText (f named.1, f named.2) = Layout.namedText named := by
    simp only [Layout.namedText, layout_text_map same]
  have description (named : τ × NumberDesc τ) :
      Layout.namedDesc (f named.1, named.2.map f) = Layout.namedDesc named := by
    simp only [Layout.namedDesc, layout_text_map same, layout_desc_map same]
  simp only [Layout.territory, Territory.map, layout_text_map same, layout_counted_map attr,
    layout_counted_map description, layout_counted_map (layout_format_map same)]

/-- Texts put in another type with their spelling kept are laid out the same. -/
theorem layout_map (ts : List (Territory τ)) :
    Layout.collection (ts.map (Territory.map f)) = Layout.collection ts := by
  simp only [Layout.collection, List.length_map, List.flatMap_map, layout_territory_map same]

end

/-- A collection of texts of characters is written the same where texts might hold halves. -/
theorem encode_ofString (ts : List Territory) :
    encode (ts.map (Territory.map LooseText.ofString)) = encode ts := by
  rw [encode_written, encode_written, layout_map Utf8.spell_ofString]

end Wire

end NumberingPlan
