import Mathlib.Tactic.MkIffOfInductiveProp
import Mathlib.Tactic.Tauto
import NumberingPlan.Failure
import NumberingPlan.Proofs.LooseTexts

/-! Which collections can be written. A value has a range by what it is: sizes of texts and calling codes
have 32 bits, sizes of lists and possible lengths have 16. A collection with every value in its range is
written, if its texts have a spelling. Otherwise the writing stops at the first item of its layout that is
out of its range or has no spelling, and only the former is told as an error of the format. -/
namespace NumberingPlan

variable {τ : Type}

def NumberDesc.texts (d : NumberDesc τ) : List τ := d.pattern.toList ++ d.exampleNumber.toList

def NumberFormat.texts (f : NumberFormat τ) : List τ :=
  f.pattern :: f.format :: f.leadingDigits ++ f.intlFormat.toList ++ f.nationalPrefixRule.toList ++
    f.carrierCodeRule.toList

namespace Territory

def texts (t : Territory τ) : List τ :=
  t.id :: t.attributes.flatMap (fun named => [named.1, named.2]) ++
    t.descriptions.flatMap (fun named => named.1 :: named.2.texts) ++ t.formats.flatMap NumberFormat.texts

def listSizes (t : Territory τ) : List Nat :=
  [t.attributes.length, t.descriptions.length, t.formats.length] ++
    t.descriptions.flatMap (fun named => [named.2.lengths.length, named.2.localLengths.length]) ++
    t.formats.map fun f => f.leadingDigits.length

/-- The lengths that the descriptions of a territory say a number may have. -/
def possibleLengths (t : Territory τ) : List Int :=
  t.descriptions.flatMap fun named => named.2.lengths ++ named.2.localLengths

end Territory

namespace Wire

variable [Utf8.Spelled τ]

/-- Every value of a territory is in its range. A text without a spelling has no size. -/
@[mk_iff]
structure InRange (t : Territory τ) : Prop where
  code : 0 ≤ t.countryCode ∧ t.countryCode ≤ 0xFFFFFFFF
  texts : ∀ s ∈ t.texts, ∀ bytes, Utf8.spell s = .ok bytes → bytes.length ≤ 0xFFFFFFFF
  lists : ∀ size ∈ t.listSizes, size ≤ 0xFFFF
  lengths : ∀ length ∈ t.possibleLengths, 0 ≤ length ∧ length ≤ 0xFFFF

/-- Every text of a territory has a spelling. -/
def Spellable (t : Territory τ) : Prop := ∀ s ∈ t.texts, ∃ bytes, Utf8.spell s = .ok bytes

/-- A collection of which every value is in its range. -/
def AllInRange (ts : List (Territory τ)) : Prop := ts.length ≤ 0xFFFFFFFF ∧ ∀ t ∈ ts, InRange t

/-- An item that has bytes, if its number is one of those allowed. -/
def Item.Allowed (ok : Int → Width → Prop) : Item → Prop
  | .number value width => ok value width
  | .flag _ => True
  | .octets _ => True
  | .unencodable _ => False

/-- Items that are all allowed. -/
def Allowed (ok : Int → Width → Prop) (items : List Item) : Prop := ∀ item ∈ items, item.Allowed ok

def Width.Holds (width : Width) (value : Int) : Prop := 0 ≤ value ∧ value < width.bound

/-- An item that can be written. -/
def Item.Fits (item : Item) : Prop := item.Allowed fun value width => width.Holds value

section
variable {ok : Int → Width → Prop}

@[simp] theorem allowed_nil : Allowed ok [] := List.forall_mem_nil _

@[simp] theorem allowed_cons : Allowed ok (item :: items) ↔ item.Allowed ok ∧ Allowed ok items :=
  List.forall_mem_cons

@[simp] theorem allowed_append : Allowed ok (items ++ later) ↔ Allowed ok items ∧ Allowed ok later :=
  List.forall_mem_append

private theorem allowed_flatMap {α : Type} {layout : α → List Item} {members : List α} :
    Allowed ok (members.flatMap layout) ↔ ∀ member ∈ members, Allowed ok (layout member) :=
  List.forall_mem_flatMap

@[simp] theorem number_allowed : (Item.number value width).Allowed ok ↔ ok value width := Iff.rfl

@[simp] theorem flag_allowed : (Item.flag b).Allowed ok := trivial

@[simp] theorem octets_allowed : (Item.octets bytes).Allowed ok := trivial

/-- A text that has a spelling of an allowed size. -/
def TextAllowed (ok : Int → Width → Prop) (s : τ) : Prop :=
  ∃ bytes, Utf8.spell s = .ok bytes ∧ ok bytes.length .u32

theorem allowed_text_iff {s : τ} : Allowed ok (Layout.text s) ↔ TextAllowed ok s := by
  rw [Layout.text, TextAllowed]
  cases Utf8.spell s with
  | ok bytes => simp
  | error fault => simp [Item.Allowed]

theorem allowed_optionalText_iff {s : Option τ} :
    Allowed ok (Layout.optionalText s) ↔ ∀ t ∈ s.toList, TextAllowed ok t := by
  cases s <;> simp [Layout.optionalText, allowed_text_iff]

theorem allowed_counted_iff {α : Type} {layout : α → List Item} {members : List α} :
    Allowed ok (Layout.counted layout members) ↔
      ok members.length .u16 ∧ ∀ member ∈ members, Allowed ok (layout member) := by
  rw [Layout.counted, allowed_cons, allowed_flatMap, number_allowed]

theorem allowed_length_iff : Allowed ok (Layout.length value) ↔ ok value .u16 := by
  simp [Layout.length]

theorem allowed_desc_iff {d : NumberDesc τ} : Allowed ok (Layout.desc d) ↔
    (∀ s ∈ d.texts, TextAllowed ok s) ∧ (ok d.lengths.length .u16 ∧ ok d.localLengths.length .u16) ∧
      ∀ length ∈ d.lengths ++ d.localLengths, ok length .u16 := by
  simp only [Layout.desc, List.flatten_cons, List.flatten_nil, allowed_append, allowed_nil,
    allowed_optionalText_iff, allowed_counted_iff, allowed_length_iff, NumberDesc.texts, List.forall_mem_append]
  tauto

theorem allowed_format_iff {f : NumberFormat τ} : Allowed ok (Layout.format f) ↔
    (∀ s ∈ f.texts, TextAllowed ok s) ∧ ok f.leadingDigits.length .u16 := by
  simp only [Layout.format, List.flatten_cons, List.flatten_nil, allowed_append, allowed_cons, allowed_nil,
    flag_allowed, allowed_text_iff, allowed_optionalText_iff, allowed_counted_iff, NumberFormat.texts,
    List.forall_mem_append, List.forall_mem_cons, List.cons_append]
  tauto

/-- What the layout of a territory allows, told kind after kind. -/
theorem allowed_territory_iff {t : Territory τ} : Allowed ok (Layout.territory t) ↔
    ok t.countryCode .u32 ∧ (∀ s ∈ t.texts, TextAllowed ok s) ∧ (∀ size ∈ t.listSizes, ok size .u16) ∧
      ∀ length ∈ t.possibleLengths, ok length .u16 := by
  -- The layout goes field after field; what remains is to sort the fields by kind.
  simp only [Layout.territory, Layout.namedText, Layout.namedDesc, List.flatten_cons, List.flatten_nil,
    allowed_append, allowed_cons, allowed_nil, number_allowed, flag_allowed, allowed_text_iff,
    allowed_counted_iff, allowed_desc_iff, allowed_format_iff, Territory.texts, Territory.listSizes,
    Territory.possibleLengths, List.forall_mem_append, List.forall_mem_cons, List.forall_mem_flatMap,
    List.forall_mem_map, List.cons_append, List.nil_append, forall₂_and, and_true]
  tauto

theorem allowed_collection_iff {ts : List (Territory τ)} : Allowed ok (Layout.collection ts) ↔
    ok formatVersion .u16 ∧ ok ts.length .u32 ∧ ∀ t ∈ ts, Allowed ok (Layout.territory t) := by
  simp only [Layout.collection, allowed_cons, octets_allowed, number_allowed, allowed_flatMap, true_and]

end

theorem u16_holds_iff : Width.u16.Holds value ↔ 0 ≤ value ∧ value ≤ 0xFFFF := by
  have bound : (Width.u16.bound : Int) = 0xFFFF + 1 := rfl
  rw [Width.Holds, bound, Int.lt_add_one_iff]

theorem u32_holds_iff : Width.u32.Holds value ↔ 0 ≤ value ∧ value ≤ 0xFFFFFFFF := by
  have bound : (Width.u32.bound : Int) = 0xFFFFFFFF + 1 := rfl
  rw [Width.Holds, bound, Int.lt_add_one_iff]

theorem u16_holds_size_iff {size : Nat} : Width.u16.Holds size ↔ size ≤ 0xFFFF := by
  rw [u16_holds_iff]
  omega

theorem u32_holds_size_iff {size : Nat} : Width.u32.Holds size ↔ size ≤ 0xFFFFFFFF := by
  rw [u32_holds_iff]
  omega

/-- Whatever the numbers are, a layout allows a text exactly if it is spelled. -/
theorem spelled_iff {ts : List (Territory τ)} :
    Allowed (fun _ _ => True) (Layout.collection ts) ↔ ∀ t ∈ ts, Spellable t := by
  simp only [allowed_collection_iff, allowed_territory_iff, TextAllowed, Spellable, implies_true, and_true,
    true_and]

private theorem texts_fit_iff {texts : List τ} :
    (∀ s ∈ texts, TextAllowed (fun value width => width.Holds value) s) ↔
      (∀ s ∈ texts, ∀ bytes, Utf8.spell s = .ok bytes → bytes.length ≤ 0xFFFFFFFF) ∧
        ∀ s ∈ texts, ∃ bytes, Utf8.spell s = .ok bytes := by
  simp only [TextAllowed, u32_holds_size_iff]
  constructor
  · refine fun fits => ⟨fun s member bytes spelled => ?_, fun s member => ?_⟩
    · obtain ⟨bytes', spelled', short⟩ := fits s member
      cases spelled.symm.trans spelled'
      exact short
    · obtain ⟨bytes, spelled, -⟩ := fits s member
      exact ⟨bytes, spelled⟩
  · rintro ⟨short, spelled⟩ s member
    obtain ⟨bytes, done⟩ := spelled s member
    exact ⟨bytes, done, short s member bytes done⟩

/-- A collection fits its layout exactly if its values are in range, of whatever kind they are, and its
texts are spelled. -/
theorem fits_iff {ts : List (Territory τ)} :
    (∀ item ∈ Layout.collection ts, item.Fits) ↔ AllInRange ts ∧ ∀ t ∈ ts, Spellable t := by
  have version : Width.u16.Holds formatVersion := u16_holds_size_iff.mpr (by decide)
  have territory (t : Territory τ) :
      Allowed (fun value width => width.Holds value) (Layout.territory t) ↔ InRange t ∧ Spellable t := by
    rw [allowed_territory_iff, inRange_iff, texts_fit_iff]
    simp only [u32_holds_iff, u16_holds_size_iff, Spellable]
    simp only [u16_holds_iff]
    tauto
  refine allowed_collection_iff.trans ?_
  simp only [version, u32_holds_size_iff, territory, true_and, AllInRange, forall₂_and, and_assoc]

/-- An item is written exactly if it fits. -/
theorem item_written_iff {item : Item} : (∃ bytes, item.written = .ok bytes) ↔ item.Fits := by
  cases item with
  | number value width =>
    by_cases holds : width.Holds value
    · exact iff_of_true ⟨_, if_pos holds⟩ holds
    · exact iff_of_false (fun ⟨bytes, done⟩ => nomatch (if_neg holds).symm.trans done) holds
  | flag b => exact iff_of_true ⟨_, rfl⟩ trivial
  | octets bytes => exact iff_of_true ⟨bytes, rfl⟩ trivial
  | unencodable fault => exact iff_of_false (fun ⟨bytes, done⟩ => nomatch done) id

/-- Items are written if all of them fit, and else the first that does not fit stops them. -/
theorem written_or_stopped (items : List Item) :
    ((∀ item ∈ items, item.Fits) ∧ ∃ bytes, written items = .ok bytes) ∨
      ∃ before item after e, items = before ++ item :: after ∧ (∀ item ∈ before, item.Fits) ∧
        ¬item.Fits ∧ item.written = .error e ∧ written items = .error e := by
  induction items with
  | nil => exact .inl ⟨List.forall_mem_nil _, [], rfl⟩
  | cons item items ih =>
    cases outcome : item.written with
    | error e =>
      have misfit : ¬item.Fits := fun fits => by
        obtain ⟨bytes, done⟩ := item_written_iff.mpr fits
        exact nomatch outcome.symm.trans done
      refine .inr ⟨[], item, items, e, rfl, List.forall_mem_nil _, misfit, outcome, ?_⟩
      rw [written_cons, outcome]
      rfl
    | ok bytes =>
      have fits : item.Fits := item_written_iff.mp ⟨bytes, outcome⟩
      rcases ih with ⟨fit, rest, done⟩ | ⟨before, stop, after, e, rfl, fit, misfit, refused, stopped⟩
      · refine .inl ⟨List.forall_mem_cons.mpr ⟨fits, fit⟩, bytes ++ rest, ?_⟩
        rw [written_cons, outcome, done]
        rfl
      · refine .inr ⟨item :: before, stop, after, e, rfl, List.forall_mem_cons.mpr ⟨fits, fit⟩, misfit, refused, ?_⟩
        rw [written_cons, outcome, stopped]
        rfl

/-- The first number of a layout that does not fit, after items that do, is what a collection is refused
with, and with the width that the number should have. -/
structure RefusedFor (ts : List (Territory τ)) (value : Int) (width : Width) : Prop where
  stands : ∃ before after, Layout.collection ts = before ++ .number value width :: after ∧
    ∀ item ∈ before, item.Fits
  wide : ¬(0 ≤ value ∧ value < width.bound)
  refused : encode ts = .error (.tooWide value width)
  told : Text.isWritable value = true → (Failure.wire (.tooWide value width)).report =
    "CodecError: Value " ++ toString value ++ " does not fit in " ++ width.name

/-- The first text of a layout that has no spelling, after items that fit, is what a collection is refused
with, and not as an error of the format. -/
structure Unspelled (ts : List (Territory τ)) (fault : Utf8.Unencodable) : Prop where
  stands : ∃ before after, Layout.collection ts = before ++ .unencodable fault :: after ∧
    ∀ item ∈ before, item.Fits
  refused : encode ts = .error (.unencodable fault)
  told : (Failure.wire (.unencodable fault)).report = "UnicodeEncodeError: " ++ fault.message

/-- How the writing of a collection ends. -/
structure WrittenOrRefused (ts : List (Territory τ)) : Prop where
  whole : (∃ payload, encode ts = .ok payload) ↔ AllInRange ts ∧ ∀ t ∈ ts, Spellable t
  outOfRange : ¬AllInRange ts → (∀ t ∈ ts, Spellable t) → ∃ value width, RefusedFor ts value width
  unspelled : ¬(∀ t ∈ ts, Spellable t) →
    (∃ value width, RefusedFor ts value width) ∨ ∃ fault, Unspelled ts fault

private theorem report_of_writable (value : Int) (width : Width) (short : Text.isWritable value = true) :
    (Failure.wire (.tooWide value width)).report =
      "CodecError: Value " ++ toString value ++ " does not fit in " ++ width.name := by
  have kind : (Failure.wire (.tooWide value width)).kind = "CodecError" := if_pos short
  have message : (Failure.wire (.tooWide value width)).message =
      "Value " ++ toString value ++ " does not fit in " ++ width.name := if_pos short
  rw [Failure.report, kind, message]
  rfl

/-- A collection with every value in range and every text spelled is written. If all texts are spelled, any
other is refused as an error of the format, with the first number of its layout that is out of range and
the width that this number should have. A text without a spelling stops the writing too, if no such number
comes before it, but not as an error of the format. -/
theorem first_value_out_of_range_is_refused (ts : List (Territory LooseText)) : WrittenOrRefused ts := by
  rcases written_or_stopped (Layout.collection ts) with
    ⟨fit, payload, done⟩ | ⟨before, item, after, e, layout, fit, misfit, refused, stopped⟩
  · obtain ⟨inside, spelled⟩ := fits_iff.mp fit
    rw [← encode_written] at done
    exact ⟨iff_of_true ⟨payload, done⟩ ⟨inside, spelled⟩, fun outside => absurd inside outside,
      fun unspelled => absurd spelled unspelled⟩
  · rw [← encode_written] at stopped
    have listed : item ∈ Layout.collection ts := layout ▸ List.mem_append_right _ List.mem_cons_self
    have unwritten : (∃ payload, encode ts = .ok payload) ↔ AllInRange ts ∧ ∀ t ∈ ts, Spellable t :=
      iff_of_false (fun ⟨payload, done⟩ => nomatch stopped.symm.trans done)
        fun all => misfit (fits_iff.mpr all item listed)
    cases item with
    | number value width =>
      cases (if_neg misfit).symm.trans refused
      have told : RefusedFor ts value width :=
        ⟨⟨before, after, layout, fit⟩, misfit, stopped, report_of_writable value width⟩
      exact ⟨unwritten, fun _ _ => ⟨value, width, told⟩, fun _ => .inl ⟨value, width, told⟩⟩
    | flag b => exact absurd trivial misfit
    | octets bytes => exact absurd trivial misfit
    | unencodable fault =>
      cases refused
      exact ⟨unwritten, fun _ spelled => (spelled_iff.mpr spelled _ listed).elim,
        fun _ => .inr ⟨fault, ⟨before, after, layout, fit⟩, stopped, rfl⟩⟩

/-- Texts of characters are spelled in either type. -/
theorem spellable_ofString (ts : List Territory) :
    ∀ t ∈ ts.map (Territory.map LooseText.ofString), Spellable t := by
  rw [← spelled_iff, layout_map Utf8.spell_ofString, spelled_iff]
  exact fun t _ s _ => ⟨Utf8.encode s, rfl⟩

/-- A territory with a length one too great after one at its greatest, and one with a negative code. -/
def overfull : List Territory :=
  [⟨"A", 1, false, [], [("m", ⟨none, none, [0xFFFF, 0x10000], []⟩)], []⟩, ⟨"B", -1, false, [], [], []⟩]

/-- Values at their greatest are written, and of the two that are beyond the first is refused. -/
theorem greatest_values_and_beyond :
    (∃ payload, encode [(⟨"ß", 0xFFFFFFFF, false, [], [("m", ⟨some "é", none, [0xFFFF], [0]⟩)], []⟩ :
      Territory LooseText)] = .ok payload) ∧
    RefusedFor (overfull.map (Territory.map LooseText.ofString)) 0x10000 .u16 := by
  refine ⟨⟨_, rfl⟩, ?_⟩
  have outside : ¬AllInRange (overfull.map (Territory.map LooseText.ofString)) := fun inside => by
    have code := (inside.2 ⟨"B", -1, false, [], [], []⟩ (by decide)).code
    exact absurd code.1 (by decide)
  obtain ⟨value, width, told⟩ :=
    (first_value_out_of_range_is_refused _).outOfRange outside (spellable_ofString overfull)
  have here : encode (overfull.map (Territory.map LooseText.ofString)) = .error (.tooWide 0x10000 .u16) := rfl
  cases here.symm.trans told.refused
  exact told

/-- A territory whose id is the first half of a surrogate pair. -/
def halfNamed : Territory LooseText := ⟨⟨[.half ⟨0, by decide⟩]⟩, 1, false, [], [], []⟩

/-- Every value is in its range, and yet the writing stops, with an error that is none of the format's. -/
theorem half_of_a_pair_stops_the_writing : AllInRange [halfNamed] ∧
    encode [halfNamed] = .error (.unencodable ⟨0, 1, 0⟩) ∧
    (Failure.wire (.unencodable ⟨0, 1, 0⟩)).report = "UnicodeEncodeError: 'utf-8' codec can't encode " ++
      "character '\\ud800' in position 0: surrogates not allowed" := by
  refine ⟨⟨by decide, fun t member => ?_⟩, rfl, rfl⟩
  obtain rfl := List.mem_singleton.mp member
  have texts (s : LooseText) (listed : s ∈ halfNamed.texts) (bytes : List UInt8)
      (spelled : Utf8.spell s = .ok bytes) : bytes.length ≤ 0xFFFFFFFF := by
    obtain rfl := List.mem_singleton.mp listed
    cases spelled
  exact ⟨by decide, texts, by decide, by decide⟩

end Wire

end NumberingPlan
