import Mathlib.Data.List.Intervals
import NumberingPlan.Proofs.ListReading
import NumberingPlan.Proofs.Numerals
import NumberingPlan.Territory.Lengths

/-! Lengths in text. A text of items stands for the lengths of its items, one after the other: a number for
itself, and a range for every number from its first to its last. Between blanks and commas an item is
spelled by decimal digits of any script. A text that is joined from two is read exactly when both of them
are, and as both. -/
namespace NumberingPlan.Lengths

open Text

/-- An item of a text of lengths. -/
inductive Item where
  | number (n : Int)
  | range (first last : Nat)
  deriving DecidableEq

/-- The lengths that an item stands for. A range from a greater number to a smaller one stands for none. -/
def Item.lengths : Item → List Int
  | number n => [n]
  | range first last => (List.Ico first (last + 1)).map Nat.cast

/-- A range stands for fewer than 2^63 lengths. -/
def Item.Fits : Item → Prop
  | number _ => True
  | range first last => last + 1 - first < 9223372036854775808

instance (item : Item) : Decidable item.Fits :=
  match item with
  | .number _ => inferInstanceAs (Decidable True)
  | .range first last => inferInstanceAs (Decidable (last + 1 - first < 9223372036854775808))

/-- The texts of an item without blanks around it. -/
inductive Spells : List Char → Item → Prop where
  | number (spelled : Signed text n) : Spells text (.number n)
  | range (spelled : Numeral text first) (spelled' : Numeral text' last) (short : text.length ≤ maxDigits)
      (short' : text'.length ≤ maxDigits) :
      Spells ('[' :: (text ++ '-' :: (text' ++ [']']))) (.range first last)

/-- A text that writes an item spells it between blanks. -/
def Writes (text : List Char) (item : Item) : Prop :=
  ∃ front bare back, text = front ++ bare ++ back ∧ (∀ c ∈ front, isBlank c = true) ∧
    (∀ c ∈ back, isBlank c = true) ∧ Spells bare item

def Item.decimal : Item → List Char
  | number n => (toString n).toList
  | range first last => '[' :: (Nat.toDigits 10 first ++ '-' :: (Nat.toDigits 10 last ++ [']']))

/-- The numbers of an item have no more digits than a numeral may have. -/
def Item.Short : Item → Prop
  | number n => (Nat.toDigits 10 n.natAbs).length ≤ maxDigits
  | range first last =>
    (Nat.toDigits 10 first).length ≤ maxDigits ∧ (Nat.toDigits 10 last).length ≤ maxDigits

instance (item : Item) : Decidable item.Short :=
  match item with
  | .number n => inferInstanceAs (Decidable ((Nat.toDigits 10 n.natAbs).length ≤ maxDigits))
  | .range first last => inferInstanceAs (Decidable
      ((Nat.toDigits 10 first).length ≤ maxDigits ∧ (Nat.toDigits 10 last).length ≤ maxDigits))

theorem Item.decimal_spells (item : Item) (short : item.Short) : Spells item.decimal item := by
  cases item with
  | number n => exact .number (signed_toString n short)
  | range first last => exact .range (numeral_toDigits first) (numeral_toDigits last) short.1 short.2

/-! The characters of an item. -/

theorem Spells.ne_nil (spelled : Spells text item) : text ≠ [] := by
  cases spelled with
  | number spelled => exact spelled.ne_nil
  | range => exact List.cons_ne_nil _ _

theorem Spells.characters (spelled : Spells text item) :
    ∀ c ∈ text, isDecimalDigit c = true ∨ c ∈ ['+', '-', '[', ']'] := by
  intro c member
  cases spelled with
  | number spelled =>
    rcases spelled.characters c member with digit | rfl | rfl
    · exact .inl digit
    · decide
    · decide
  | range spelled spelled' =>
    simp only [List.mem_cons, List.mem_append, List.not_mem_nil, or_false] at member
    rcases member with rfl | digit | rfl | digit | rfl
    · decide
    · exact .inl (spelled.digits c digit)
    · decide
    · exact .inl (spelled'.digits c digit)
    · decide

theorem Spells.not_blank (spelled : Spells text item) : ∀ c ∈ text, isBlank c = false := by
  intro c member
  rcases spelled.characters c member with digit | mark
  · exact not_blank_of_digit digit
  · have plain : ['+', '-', '[', ']'].all (fun c => !isBlank c) = true := by decide
    simpa using List.all_eq_true.mp plain c mark

theorem Writes.trim (written : Writes text item) : Spells (Text.trim text) item := by
  obtain ⟨front, bare, back, rfl, before, after, spelled⟩ := written
  rwa [trim_of_plain before after spelled.ne_nil spelled.not_blank]

private theorem writes_iff_spells_trim : Writes text item ↔ Spells (Text.trim text) item := by
  constructor
  · exact Writes.trim
  · intro spelled
    obtain ⟨front, back, whole, before, after⟩ := exists_blanks_around text
    exact ⟨front, Text.trim text, back, whole, before, after, spelled⟩

theorem Writes.ne_nil (written : Writes text item) : text ≠ [] := by
  obtain ⟨front, bare, back, rfl, -, -, spelled⟩ := written
  simp [spelled.ne_nil]

/-- No item has a comma in it. -/
theorem Writes.no_comma (written : Writes text item) : ',' ∉ text := by
  obtain ⟨front, bare, back, rfl, before, after, spelled⟩ := written
  have blank : isBlank ',' = false := by decide
  intro member
  rcases List.mem_append.mp member with early | late
  · rcases List.mem_append.mp early with first | middle
    · exact absurd (before ',' first) (by simp [blank])
    · exact absurd (spelled.characters ',' middle) (by decide)
  · exact absurd (after ',' late) (by simp [blank])

/-! What an item is read as. -/

private theorem span_digits (digits : ∀ c ∈ text, isDecimalDigit c = true) (ends : isDecimalDigit c = false)
    (rest : List Char) : (text ++ c :: rest).span isDecimalDigit = (text, c :: rest) := by
  rw [List.span_eq_takeWhile_dropWhile, List.takeWhile_append_of_pos digits,
    List.dropWhile_append_of_pos digits, List.takeWhile_cons_of_neg (by simp [ends]),
    List.dropWhile_cons_of_neg (by simp [ends]), List.append_nil]

/-- A range in brackets is two runs of digits with a dash between them. -/
theorem range?_eq_some_iff : range? text = some (first, last) ↔
    text = '[' :: (first ++ '-' :: (last ++ [']'])) ∧ first ≠ [] ∧ last ≠ [] ∧
      (∀ c ∈ first, isDecimalDigit c = true) ∧ ∀ c ∈ last, isDecimalDigit c = true := by
  constructor
  · intro found
    unfold range? at found
    split at found
    · rename_i rest
      simp only [List.span_eq_takeWhile_dropWhile] at found
      split at found
      · rename_i rest' dash
        split at found
        · cases found
        · rename_i complete
          cases found
          have whole := List.takeWhile_append_dropWhile (p := isDecimalDigit) (l := rest)
          have whole' := List.takeWhile_append_dropWhile (p := isDecimalDigit) (l := rest')
          simp only [Bool.or_eq_true, List.isEmpty_iff, bne_iff_ne, not_or, ne_eq, not_not] at complete
          obtain ⟨⟨nonempty, nonempty'⟩, bracket⟩ := complete
          refine ⟨?_, nonempty, nonempty', fun c member => List.mem_takeWhile_imp member,
            fun c member => List.mem_takeWhile_imp member⟩
          rw [← bracket, whole', ← dash, whole]
      · cases found
    · cases found
  · rintro ⟨rfl, nonempty, nonempty', digits, digits'⟩
    have outer := span_digits digits (by decide : isDecimalDigit '-' = false) (last ++ [']'])
    have inner := span_digits digits' (by decide : isDecimalDigit ']' = false) []
    simp only [range?, outer, inner]
    simp [nonempty, nonempty']

/-- What begins with a digit or a sign is no range. -/
theorem range?_of_signed (spelled : Signed text n) : range? text = none := by
  cases found : range? text with
  | none => rfl
  | some ends =>
    obtain ⟨rfl, -⟩ := range?_eq_some_iff.mp found
    exact absurd (spelled.characters '[' (by simp)) (by decide)

theorem Item.fits_range_iff : (Item.range first last).Fits ↔ ¬maxCount < last + 1 - first := by
  rw [Fits, maxCount]
  omega

private theorem upTo_eq (first last : Nat) : upTo first last = (Item.range first last).lengths := by
  rw [Item.lengths, List.Ico, List.range'_eq_map_range, List.map_map]
  rfl

/-- An item is read as its lengths, unless it is a range of too many. -/
theorem ofItem_of_writes (value : String) (written : Writes text item) :
    ofItem value text = if item.Fits then .ok item.lengths else .error .tooMany := by
  have spelled := written.trim
  generalize bare : Text.trim text = trimmed at spelled
  cases spelled with
  | number spelled =>
    rw [ofItem, bare, range?_of_signed spelled, spelled.integer?]
    rfl
  | @range text first text' last spelled spelled' short short' =>
    have found := range?_eq_some_iff.mpr
      ⟨rfl, spelled.ne_nil, spelled'.ne_nil, spelled.digits, spelled'.digits⟩
    rw [ofItem, bare, found]
    dsimp only
    rw [spelled.natural? short, spelled'.natural? short']
    dsimp only
    rw [upTo_eq]
    by_cases fits : (Item.range first last).Fits
    · rw [if_neg (Item.fits_range_iff.mp fits), if_pos fits]
    · rw [if_pos (not_not.mp (mt Item.fits_range_iff.mpr fits)), if_neg fits]

/-- Only a range of too many lengths is refused for their number. -/
theorem ofItem_eq_tooMany_iff (value : String) :
    ofItem value text = .error .tooMany ↔ ∃ item, Writes text item ∧ ¬item.Fits := by
  constructor
  · intro refused
    unfold ofItem at refused
    dsimp only at refused
    split at refused
    · rename_i first last found
      obtain ⟨bare, nonempty, nonempty', digits, digits'⟩ := range?_eq_some_iff.mp found
      split at refused
      · rename_i n m read read'
        obtain ⟨spelled, short⟩ := (natural?_eq_some_iff nonempty digits).mp read
        obtain ⟨spelled', short'⟩ := (natural?_eq_some_iff nonempty' digits').mp read'
        split at refused
        · rename_i many
          exact ⟨.range n m, writes_iff_spells_trim.mpr (bare ▸ .range spelled spelled' short short'),
            fun fits => Item.fits_range_iff.mp fits many⟩
        · cases refused
      · cases refused
    · split at refused <;> cases refused
  · rintro ⟨item, written, many⟩
    rw [ofItem_of_writes value written, if_neg many]

/-- The text that an item stands in matters to its fault only. -/
theorem ofItem_eq_ok_congr (value other : String) :
    ofItem value text = .ok lengths ↔ ofItem other text = .ok lengths := by
  unfold ofItem
  dsimp only
  split
  · split
    · rfl
    · exact ⟨nofun, nofun⟩
  · split
    · rfl
    · exact ⟨nofun, nofun⟩

/-! Items joined by commas. -/

private theorem items_eq_splitOn (text : List Char) : items text = text.splitOn ',' := by
  induction text with
  | nil => rfl
  | cons c text ih =>
    rw [List.splitOn_cons_eq_if_modifyHead, items, ih]
    by_cases comma : c = ','
    · simp [comma]
    · obtain ⟨item, more, split⟩ := List.exists_cons_of_ne_nil (List.splitOn_ne_nil ',' text)
      simp [comma, split]

private theorem items_append (text more : List Char) : items (text ++ ',' :: more) = items text ++ items more := by
  rw [items_eq_splitOn, items_eq_splitOn, items_eq_splitOn, List.splitOn_append_cons_self]

private theorem items_intercalate {texts : List (List Char)} (nonempty : texts ≠ [])
    (plain : ∀ text ∈ texts, ',' ∉ text) :
    items ([','].intercalate texts) = texts := by
  rw [items_eq_splitOn, List.splitOn_intercalate ',' plain nonempty]

/-- What a text that is not empty is read as. -/
theorem parse_of_nonempty (nonempty : value ≠ "") :
    parse value = ((items value.toList).mapM (ofItem value)).map List.flatten := by
  rw [parse, if_neg (by simpa using nonempty)]

theorem parse_eq_ok_iff (nonempty : value ≠ "") : parse value = .ok lengths ↔
    ∃ each, (items value.toList).mapM (ofItem "") = .ok each ∧ lengths = each.flatten := by
  have same (each : List (List Int)) : (items value.toList).mapM (ofItem value) = .ok each ↔
      (items value.toList).mapM (ofItem "") = .ok each := by
    simp only [mapM_eq_ok_iff, ofItem_eq_ok_congr value ""]
  rw [parse_of_nonempty nonempty]
  constructor
  · intro read
    cases whole : (items value.toList).mapM (ofItem value) with
    | error fault =>
      rw [whole] at read
      cases read
    | ok each =>
      rw [whole] at read
      cases read
      exact ⟨each, (same each).mp whole, rfl⟩
  · rintro ⟨each, whole, rfl⟩
    rw [(same each).mpr whole]
    rfl

/-- Items that all fit are read as the lengths of each. -/
theorem parse_of_writes (nonempty : texts ≠ [])
    (each : List.Forall₂ (fun text item => Writes text item ∧ item.Fits) texts listed) :
    parse (String.ofList ([','].intercalate texts)) = .ok (listed.flatMap Item.lengths) := by
  have parts : ∀ text ∈ texts, text ≠ [] ∧ ',' ∉ text :=
    ((List.forall₂_and_left _ _).mp (each.imp fun _ _ h => ⟨⟨h.1.ne_nil, h.1.no_comma⟩, h⟩)).1
  have split : items ([','].intercalate texts) = texts :=
    items_intercalate nonempty fun text member => (parts text member).2
  have something : String.ofList ([','].intercalate texts) ≠ "" := by
    intro empty
    rw [String.ofList_eq_empty_iff.mp empty] at split
    exact (parts [] (split ▸ List.mem_singleton.mpr rfl)).1 rfl
  refine (parse_eq_ok_iff something).mpr ⟨listed.map Item.lengths, ?_, List.flatMap_def⟩
  rw [String.toList_ofList, split, mapM_eq_ok_iff, List.forall₂_map_right_iff]
  refine each.imp fun text item h => ?_
  rw [ofItem_of_writes "" h.1, if_pos h.2]

/-- Lengths are read off their items. Every item is spelled by plain decimal, among others. A text that
writes items with commas between them, none of them a range of too many, is read as the lengths of each
in order. Two texts joined by a comma are read exactly when both are, and as the lengths of the first and
then of the second. -/
theorem lengths_of_joined_items :
    (∀ item : Item, item.Short → Spells item.decimal item) ∧
    (∀ texts listed, listed ≠ [] → List.Forall₂ (fun text item => Writes text item ∧ item.Fits) texts listed →
      parse (String.ofList ([','].intercalate texts)) = .ok (listed.flatMap Item.lengths)) ∧
    ∀ s t : String, s ≠ "" → t ≠ "" → ∀ lengths, parse (s ++ "," ++ t) = .ok lengths ↔
      ∃ before after, parse s = .ok before ∧ parse t = .ok after ∧ lengths = before ++ after := by
  refine ⟨Item.decimal_spells, ?_, ?_⟩
  · intro texts listed nonempty each
    refine parse_of_writes ?_ each
    rintro rfl
    cases each
    exact nonempty rfl
  · intro s t nonempty nonempty' lengths
    have joined : s ++ "," ++ t ≠ "" := by simp
    have split : items (s ++ "," ++ t).toList = items s.toList ++ items t.toList := by
      rw [← items_append]
      simp
    rw [parse_eq_ok_iff joined, split]
    simp only [parse_eq_ok_iff nonempty, parse_eq_ok_iff nonempty', mapM_append_eq_ok_iff]
    constructor
    · rintro ⟨_, ⟨first, second, read, read', rfl⟩, rfl⟩
      exact ⟨_, _, ⟨first, read, rfl⟩, ⟨second, read', rfl⟩, List.flatten_append⟩
    · rintro ⟨_, _, ⟨first, read, rfl⟩, ⟨second, read', rfl⟩, rfl⟩
      exact ⟨first ++ second, ⟨first, second, read, read', rfl⟩, List.flatten_append.symm⟩

/-- A range, a negative number, a range from a greater number to a smaller one, and a number with a sign and
digits of another script, with blanks around them. -/
theorem mixed_items_are_read_in_order :
    parse " [4-6]\t,-9,[7-5],\u2003+٠٣" = .ok [4, 5, 6, -9, 3] ∧
    parse (" [4-6]\t,-9" ++ "," ++ "[7-5],\u2003+٠٣") = .ok [4, 5, 6, -9, 3] := by
  obtain ⟨plain, read, joined⟩ := lengths_of_joined_items
  have blank {c : Char} (blank : isBlank c = true) : ∀ d ∈ [c], isBlank d = true :=
    List.forall_mem_singleton.mpr blank
  have first : Writes [' ', '[', '4', '-', '6', ']', '\t'] (.range 4 6) :=
    ⟨[' '], _, ['\t'], rfl, blank rfl, blank rfl, plain (.range 4 6) (by decide)⟩
  have second : Writes ['-', '9'] (.number (-9)) :=
    ⟨[], _, [], rfl, nofun, nofun, plain (.number (-9)) (by decide)⟩
  have third : Writes ['[', '7', '-', '5', ']'] (.range 7 5) :=
    ⟨[], _, [], rfl, nofun, nofun, plain (.range 7 5) (by decide)⟩
  have zero : Numeral ['٠'] 0 := .digit (by decide)
  have three : Numeral ['٠', '٣'] (10 * 0 + 3) := zero.append (by decide)
  have fourth : Writes ['\u2003', '+', '٠', '٣'] (.number 3) :=
    ⟨['\u2003'], ['+', '٠', '٣'], [], rfl, blank rfl, nofun, .number (.plus three (by decide))⟩
  constructor
  · exact read _ [.range 4 6, .number (-9), .range 7 5, .number 3] (by decide)
      (.cons ⟨first, by decide⟩ (.cons ⟨second, by decide⟩ (.cons ⟨third, by decide⟩
        (.cons ⟨fourth, by decide⟩ .nil))))
  · have front := read _ [.range 4 6, .number (-9)] (by decide)
      (.cons ⟨first, by decide⟩ (.cons ⟨second, by decide⟩ .nil))
    have back := read _ [.range 7 5, .number 3] (by decide)
      (.cons ⟨third, by decide⟩ (.cons ⟨fourth, by decide⟩ .nil))
    exact (joined _ _ (by decide) (by decide) _).mpr ⟨_, _, front, back, rfl⟩

end NumberingPlan.Lengths
