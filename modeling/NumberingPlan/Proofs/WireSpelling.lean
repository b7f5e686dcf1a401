import NumberingPlan.Proofs.WireLayout

/-! Which bytes spell a list of items. A number and plain bytes have one spelling, a text without
bytes has none, and a flag that is set may be any byte but zero. So the spellings are what the writer writes, except
at the flags, and settling the flags of a spelling gives what the writer writes. -/
namespace NumberingPlan.Wire

/-- The bytes that stand for an item. This says nothing of how they are written or read. -/
def Item.SpelledBy : Item → List UInt8 → Prop
  | .number value width, bytes => ∃ n : Nat, n < width.bound ∧ value = n ∧ bytes = width.bytes n
  | .flag set, bytes => ∃ b : UInt8, bytes = [b] ∧ set = (b != 0)
  | .octets expected, bytes => bytes = expected
  | .unencodable _, _ => False

/-- The bytes that stand for items, one item's after another's. -/
def SpelledBy : List Item → List UInt8 → Prop
  | [], bytes => bytes = []
  | item :: items, bytes => ∃ first rest, bytes = first ++ rest ∧ item.SpelledBy first ∧ SpelledBy items rest

/-- Whether each byte of an item is a flag. -/
def Item.mask : Item → List Bool
  | .number _ width => List.replicate width.size false
  | .flag _ => [true]
  | .octets bytes => List.replicate bytes.length false
  | .unencodable _ => []

/-- Whether each byte of items is a flag. -/
def flagMask (items : List Item) : List Bool := items.flatMap Item.mask

/-- Every flag that is not zero becomes one; all other bytes stay. -/
def settle (mask : List Bool) (bytes : List UInt8) : List UInt8 :=
  List.zipWith (fun isFlag b => if isFlag then (if b = 0 then 0 else 1) else b) mask bytes

private theorem settle_append {mask : List Bool} {bytes : List UInt8} (same : mask.length = bytes.length) :
    settle (mask ++ masks) (bytes ++ rest) = settle mask bytes ++ settle masks rest :=
  List.zipWith_append same

private theorem settle_plain (bytes : List UInt8) :
    settle (List.replicate bytes.length false) bytes = bytes := by
  induction bytes with
  | nil => rfl
  | cons b bytes ih => exact congrArg (b :: ·) ih

theorem length_settle {mask : List Bool} {bytes : List UInt8} (same : mask.length = bytes.length) :
    (settle mask bytes).length = bytes.length := by
  simp [settle, same]

theorem spelledBy_append (xs ys : List Item) (bytes : List UInt8) :
    SpelledBy (xs ++ ys) bytes ↔ ∃ u v, bytes = u ++ v ∧ SpelledBy xs u ∧ SpelledBy ys v := by
  induction xs generalizing bytes with
  | nil =>
    constructor
    · exact fun spelled => ⟨[], bytes, rfl, rfl, spelled⟩
    · rintro ⟨_, v, rfl, rfl, spelled⟩
      exact spelled
  | cons item xs ih =>
    simp only [List.cons_append, SpelledBy, ih]
    constructor
    · rintro ⟨first, _, rfl, spelled, u, v, rfl, left, right⟩
      exact ⟨first ++ u, v, by simp, ⟨first, u, rfl, spelled, left⟩, right⟩
    · rintro ⟨_, v, rfl, ⟨first, u, rfl, spelled, left⟩, right⟩
      exact ⟨first, u ++ v, by simp, spelled, u, v, rfl, left, right⟩

@[simp] theorem spelledBy_singleton (item : Item) (bytes : List UInt8) :
    SpelledBy [item] bytes ↔ item.SpelledBy bytes := by
  constructor
  · rintro ⟨first, _, rfl, spelled, rfl⟩
    simpa using spelled
  · exact fun spelled => ⟨bytes, [], by simp, spelled, rfl⟩

/-- A number is written exactly when it fits, and then in its one spelling. -/
theorem number_written_iff (value : Int) (width : Width) (bytes : List UInt8) :
    width.written value = .ok bytes ↔ (Item.number value width).SpelledBy bytes := by
  simp only [Width.written, Item.SpelledBy]
  split
  · rename_i fits
    constructor
    · rintro ⟨⟩
      exact ⟨value.toNat, by omega, by omega, rfl⟩
    · rintro ⟨n, _, rfl, rfl⟩
      rfl
  · rename_i wide
    simp only [reduceCtorEq, false_iff]
    rintro ⟨n, small, rfl, -⟩
    exact wide ⟨by omega, by omega⟩

/-- An item's spellings are as long as its mask and settle to what is written of it. -/
theorem item_spelledBy_iff (item : Item) (bytes : List UInt8) :
    item.SpelledBy bytes ↔
      item.mask.length = bytes.length ∧ item.written = .ok (settle item.mask bytes) := by
  cases item with
  | number value width =>
    simp only [Item.mask, List.length_replicate, Item.written]
    constructor
    · intro spelled
      have length : width.size = bytes.length := by
        obtain ⟨n, -, -, rfl⟩ := spelled
        exact (width.bytes_length n).symm
      refine ⟨length, ?_⟩
      rw [length, settle_plain]
      exact (number_written_iff ..).mpr spelled
    · rintro ⟨length, done⟩
      rw [length, settle_plain] at done
      exact (number_written_iff ..).mp done
  | flag set =>
    constructor
    · rintro ⟨b, rfl, rfl⟩
      by_cases zero : b = 0 <;> simp [Item.mask, Item.written, flag, settle, zero]
    · rintro ⟨length, done⟩
      obtain ⟨b, rfl⟩ := List.length_eq_one_iff.mp length.symm
      refine ⟨b, rfl, ?_⟩
      by_cases zero : b = 0 <;> cases set <;> simp_all [Item.mask, Item.written, flag, settle]
  | octets expected =>
    simp only [Item.mask, List.length_replicate, Item.written, Except.ok.injEq]
    constructor
    · rintro rfl
      exact ⟨rfl, (settle_plain bytes).symm⟩
    · rintro ⟨length, same⟩
      rw [length, settle_plain] at same
      exact same.symm
  | unencodable fault => simp [Item.SpelledBy, Item.written]

private theorem length_of_item_written {item : Item} {bytes : List UInt8} (done : item.written = .ok bytes) :
    bytes.length = item.mask.length := by
  cases item with
  | number value width =>
    obtain ⟨n, -, -, rfl⟩ := (number_written_iff ..).mp done
    simp [Item.mask, width.bytes_length]
  | flag set =>
    cases done
    rfl
  | octets expected =>
    cases done
    simp [Item.mask]
  | unencodable fault => cases done

/-- The spellings of items are the byte strings of their length that settle to what is written. -/
theorem spelledBy_iff (items : List Item) (bytes : List UInt8) :
    SpelledBy items bytes ↔
      (flagMask items).length = bytes.length ∧ written items = .ok (settle (flagMask items) bytes) := by
  induction items generalizing bytes with
  | nil =>
    cases bytes with
    | nil => simp [SpelledBy, flagMask, settle, written_nil]
    | cons b bytes => simp [SpelledBy, flagMask]
  | cons item items ih =>
    have masks : flagMask (item :: items) = item.mask ++ flagMask items := rfl
    simp only [SpelledBy, ih, item_spelledBy_iff, written_cons, andThen_ok_iff, masks, List.length_append]
    constructor
    · rintro ⟨first, rest, rfl, ⟨length, done⟩, length', done'⟩
      rw [settle_append length]
      exact ⟨by simp [length, length'], _, _, rfl, done, done'⟩
    · rintro ⟨length, u, v, settled, done, done'⟩
      have front : item.mask.length = (bytes.take item.mask.length).length := by
        rw [List.length_take]
        omega
      have back : (flagMask items).length = (bytes.drop item.mask.length).length := by
        rw [List.length_drop]
        omega
      rw [← List.take_append_drop item.mask.length bytes, settle_append front] at settled
      obtain ⟨rfl, rfl⟩ := List.append_inj settled (by
        rw [length_settle front, ← front, length_of_item_written done])
      exact ⟨_, _, (List.take_append_drop _ _).symm, ⟨front, done⟩, back, done'⟩

/-- What is written is one of the spellings: its flags are settled. -/
theorem written_spelledBy {items : List Item} {bytes : List UInt8} (done : written items = .ok bytes) :
    SpelledBy items bytes := by
  induction items generalizing bytes with
  | nil =>
    cases done
    rfl
  | cons item items ih =>
    obtain ⟨u, v, rfl, head, tail⟩ := (andThen_ok_iff ..).mp done
    refine ⟨u, v, rfl, ?_, ih tail⟩
    cases item with
    | number value width => exact (number_written_iff ..).mp head
    | flag set =>
      cases head
      cases set
      · exact ⟨0, rfl, rfl⟩
      · exact ⟨1, rfl, rfl⟩
    | octets expected =>
      cases head
      rfl
    | unencodable fault => cases head

theorem encode_spells {ts : List Territory} (done : encode ts = .ok payload) :
    SpelledBy (Layout.collection ts) payload := by
  rw [encode_written] at done
  exact written_spelledBy done

end NumberingPlan.Wire
