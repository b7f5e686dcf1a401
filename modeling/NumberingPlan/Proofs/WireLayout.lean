import NumberingPlan.Wire.Writer

/-! The wire format as data: a collection is laid out as a list of items, each a number of some
width, a flag, plain bytes or a text that has no bytes. The writer writes exactly the items of the
layout in their order, so what holds of any list of items holds of a payload. -/
namespace NumberingPlan.Wire

variable {τ : Type} [Utf8.Spelled τ]

/-- How many bytes a number of a width takes. -/
def Width.size : Width → Nat
  | .u16 => 2
  | .u32 => 4

/-- The bytes of a number of a width, the high one first. -/
def Width.bytes : Width → Nat → List UInt8
  | .u16 => bytes16
  | .u32 => bytes32

/-- A number written at a width, or refused by it. -/
def Width.written (width : Width) (value : Int) : Written :=
  if 0 ≤ value ∧ value < width.bound then .ok (width.bytes value.toNat)
  else .error (.tooWide value width)

theorem Width.bytes_length (width : Width) (n : Nat) : (width.bytes n).length = width.size := by
  cases width <;> rfl

/-- What the format writes without a boundary inside. -/
inductive Item where
  | number (value : Int) (width : Width)
  | flag (set : Bool)
  | octets (bytes : List UInt8)
  | unencodable (fault : Utf8.Unencodable)
  deriving DecidableEq, Repr

def Item.written : Item → Written
  | .number value width => width.written value
  | .flag set => Wire.flag set
  | .octets bytes => .ok bytes
  | .unencodable fault => .error (.unencodable fault)

/-- The bytes of items in order; the first that cannot be written stops them. -/
def written (items : List Item) : Written := sequence (items.map Item.written)

namespace Layout

/-- A text: its byte count, then its bytes. -/
def text (s : τ) : List Item :=
  match Utf8.spell s with
  | .ok bytes => [.number bytes.length .u32, .octets bytes]
  | .error fault => [.unencodable fault]

/-- A text that may be absent: whether it is there, then the text. -/
def optionalText (s : Option τ) : List Item := .flag s.isSome :: s.elim [] text

/-- A list: its length, then the items of its members. -/
def counted {α : Type} (layout : α → List Item) (members : List α) : List Item :=
  .number members.length .u16 :: members.flatMap layout

/-- A length that numbers may have. -/
def length (value : Int) : List Item := [.number value .u16]

/-- A description, field after field. -/
def desc (d : NumberDesc τ) : List Item :=
  List.flatten [optionalText d.pattern, optionalText d.exampleNumber, counted length d.lengths,
    counted length d.localLengths]

/-- A format, field after field. -/
def format (f : NumberFormat τ) : List Item :=
  List.flatten [text f.pattern, text f.format, counted text f.leadingDigits,
    optionalText f.intlFormat, optionalText f.nationalPrefixRule, [.flag f.nationalPrefixOptional],
    optionalText f.carrierCodeRule]

/-- A name and its value. -/
def namedText (pair : τ × τ) : List Item := List.flatten [text pair.1, text pair.2]

/-- A name and its description. -/
def namedDesc (pair : τ × NumberDesc τ) : List Item := List.flatten [text pair.1, desc pair.2]

/-- A territory, field after field. -/
def territory (t : Territory τ) : List Item :=
  List.flatten [text t.id, [.number t.countryCode .u32], [.flag t.isMain],
    counted namedText t.attributes, counted namedDesc t.descriptions, counted format t.formats]

/-- A collection: magic, version, the number of territories, and the territories. -/
def collection (territories : List (Territory τ)) : List Item :=
  .octets magic :: .number formatVersion .u16 :: .number territories.length .u32 ::
    territories.flatMap territory

end Layout

/-- A text of characters always has bytes. -/
theorem layout_string (s : String) :
    Layout.text s = [.number (Utf8.encode s).length .u32, .octets (Utf8.encode s)] := rfl

@[simp] theorem andThen_nil (part : Written) : andThen part (.ok []) = part := by
  cases part with
  | error e => rfl
  | ok bytes => simp [andThen, bind, Except.bind, pure, Except.pure]

@[simp] theorem nil_andThen (part : Written) : andThen (.ok []) part = part := by
  cases part <;> rfl

private theorem andThen_assoc (first second third : Written) :
    andThen (andThen first second) third = andThen first (andThen second third) := by
  cases first <;> cases second <;> cases third <;>
    simp [andThen, bind, Except.bind, pure, Except.pure]

/-- Two parts are written exactly when each is, and then one after the other. -/
theorem andThen_ok_iff (first second : Written) (bytes : List UInt8) :
    andThen first second = .ok bytes ↔ ∃ u v, bytes = u ++ v ∧ first = .ok u ∧ second = .ok v := by
  cases first with
  | error e => simp [andThen, bind, Except.bind]
  | ok u =>
    cases second with
    | error e => simp [andThen, bind, Except.bind]
    | ok v => simp [andThen, bind, Except.bind, pure, Except.pure, eq_comm]

theorem written_nil : written [] = .ok [] := rfl

theorem written_cons (item : Item) (items : List Item) :
    written (item :: items) = andThen item.written (written items) := rfl

@[simp] theorem written_singleton (item : Item) : written [item] = item.written := by
  rw [written_cons, written_nil, andThen_nil]

private theorem written_append (xs ys : List Item) : written (xs ++ ys) = andThen (written xs) (written ys) := by
  induction xs with
  | nil => rw [List.nil_append, written_nil, nil_andThen]
  | cons item xs ih => rw [List.cons_append, written_cons, written_cons, ih, andThen_assoc]

private theorem written_flatten (parts : List (List Item)) :
    written parts.flatten = sequence (parts.map written) := by
  induction parts with
  | nil => rfl
  | cons part parts ih => rw [List.flatten_cons, written_append, ih]; rfl

/-- Items are written exactly when each of them is. -/
theorem written_succeeds_iff (items : List Item) :
    (∃ bytes, written items = .ok bytes) ↔ ∀ item ∈ items, ∃ bytes, item.written = .ok bytes := by
  induction items with
  | nil => simp [written_nil]
  | cons item items ih =>
    rw [List.forall_mem_cons, ← ih, written_cons]
    constructor
    · rintro ⟨bytes, done⟩
      obtain ⟨u, v, -, first, rest⟩ := (andThen_ok_iff ..).mp done
      exact ⟨⟨u, first⟩, v, rest⟩
    · rintro ⟨⟨u, first⟩, v, rest⟩
      exact ⟨u ++ v, (andThen_ok_iff ..).mpr ⟨u, v, rfl, first, rest⟩⟩

/-- A member-wise writer writes the items of all members. -/
theorem sequence_written {α : Type} {write : α → Written} {layout : α → List Item}
    (same : ∀ a, write a = written (layout a)) (members : List α) :
    sequence (members.map write) = written (members.flatMap layout) := by
  rw [List.flatMap_def, written_flatten, List.map_map]
  exact congrArg sequence (List.map_congr_left fun a _ => same a)

private theorem text_written (s : τ) : text s = written (Layout.text s) := by
  rw [text, Layout.text]
  cases Utf8.spell s with
  | ok bytes =>
    rw [written_cons, written_singleton]
    rfl
  | error fault =>
    rw [written_singleton]
    rfl

private theorem optionalText_written (s : Option τ) :
    optionalText s = written (Layout.optionalText s) := by
  cases s with
  | none => simp [optionalText, Layout.optionalText, Item.written]
  | some s => simp [optionalText, Layout.optionalText, written_cons, text_written, Item.written]

private theorem counted_written {α : Type} {write : α → Written} {layout : α → List Item}
    (same : ∀ a, write a = written (layout a)) (members : List α) :
    counted write members = written (Layout.counted layout members) := by
  rw [counted, sequence_written same]
  rfl

private theorem length_written (value : Int) : u16 value = written (Layout.length value) := by
  rw [Layout.length, written_singleton]
  rfl

private theorem flag_written (set : Bool) : flag set = written [.flag set] := by
  rw [written_singleton]
  rfl

private theorem code_written (value : Int) : u32 value = written [.number value .u32] := by
  rw [written_singleton]
  rfl

private theorem desc_written (d : NumberDesc τ) : desc d = written (Layout.desc d) := by
  simp only [desc, Layout.desc, written_flatten, List.map_cons, List.map_nil, optionalText_written,
    counted_written length_written]

private theorem format_written (f : NumberFormat τ) : format f = written (Layout.format f) := by
  simp only [format, Layout.format, written_flatten, List.map_cons, List.map_nil, text_written,
    optionalText_written, counted_written text_written, flag_written]

private theorem namedText_written (pair : τ × τ) :
    namedText pair = written (Layout.namedText pair) := by
  simp [namedText, Layout.namedText, written_append, text_written]

private theorem namedDesc_written (pair : τ × NumberDesc τ) :
    namedDesc pair = written (Layout.namedDesc pair) := by
  simp [namedDesc, Layout.namedDesc, written_append, text_written, desc_written]

private theorem territory_written (t : Territory τ) : territory t = written (Layout.territory t) := by
  simp only [territory, Layout.territory, written_flatten, List.map_cons, List.map_nil, text_written,
    flag_written, code_written, counted_written namedText_written,
    counted_written namedDesc_written, counted_written format_written]

/-- A collection is written item by item as it is laid out. -/
theorem encode_written (territories : List (Territory τ)) :
    encode territories = written (Layout.collection territories) := by
  rw [encode, sequence_written territory_written, Layout.collection, written_cons, written_cons,
    written_cons, header, sequence, sequence, sequence, sequence, andThen_nil, andThen_assoc,
    andThen_assoc]
  rfl

end NumberingPlan.Wire
