import Mathlib.Control.Monad.Basic
import NumberingPlan.Proofs.WireReading

/-! A collection that is written is read back as it was, and a payload that is read is written again
as it was but for its flags: a flag may be any byte but zero where it is set, and is written as
one. -/
namespace NumberingPlan.Wire

/-- What was written is read back: the same territories in the same order, whole. -/
theorem decode_of_encode (written : encode ts = .ok payload) : decode payload = .ok ts :=
  (decode_eq_ok_iff payload ts).mpr (encode_spells written)

/-- A NUL, a character of two bytes, the largest code and a present but empty pattern, read back. -/
theorem decode_of_encode_intact :
    decode [80, 78, 77, 68, 0, 1, 0, 0, 0, 1, 0, 0, 0, 3, 0, 195, 169, 255, 255, 255, 255, 1, 0, 0, 0, 1,
      0, 0, 0, 1, 100, 1, 0, 0, 0, 0, 0, 0, 1, 0, 7, 0, 0, 0, 0] =
      .ok [⟨"\x00é", 4294967295, true, [], [("d", ⟨some "", none, [7], []⟩)], []⟩] := by
  have written :
      encode [⟨"\x00é", 4294967295, true, [], [("d", ⟨some "", none, [7], []⟩)], []⟩] =
        .ok [80, 78, 77, 68, 0, 1, 0, 0, 0, 1, 0, 0, 0, 3, 0, 195, 169, 255, 255, 255, 255, 1, 0, 0, 0, 1,
          0, 0, 0, 1, 100, 1, 0, 0, 0, 0, 0, 0, 1, 0, 7, 0, 0, 0, 0] := by decide +kernel
  exact decode_of_encode written

/-- The offsets in a collection's payload at which the format has a flag. -/
def FlagAt (ts : List Territory) (offset : Nat) : Prop :=
  (flagMask (Layout.collection ts))[offset]? = some true

/-- A payload that is read is as long as its collection's layout, and its settled bytes are what is
written of the collection. No other payload is read as that collection. -/
theorem decode_iff_settled (payload : List UInt8) (ts : List Territory) :
    decode payload = .ok ts ↔ (flagMask (Layout.collection ts)).length = payload.length ∧
      encode ts = .ok (settle (flagMask (Layout.collection ts)) payload) := by
  rw [decode_eq_ok_iff, spelledBy_iff, encode_written]

private theorem getElem?_settle {mask : List Bool} {bytes : List UInt8} (same : mask.length = bytes.length)
    (i : Nat) : (settle mask bytes)[i]? =
      bytes[i]?.map fun b => if mask[i]? = some true then (if b = 0 then 0 else 1) else b := by
  rw [settle, List.getElem?_zipWith]
  by_cases inside : i < mask.length
  · rw [List.getElem?_eq_getElem inside, List.getElem?_eq_getElem (same ▸ inside)]
    simp
  · rw [List.getElem?_eq_none (by omega), List.getElem?_eq_none (by omega)]
    rfl

/-- Bytes that differ at flags alone, and there only in how a set flag is spelled, settle alike. -/
theorem settle_congr {mask : List Bool} {bytes bytes' : List UInt8} (same : mask.length = bytes.length)
    (length : bytes'.length = bytes.length)
    (plain : ∀ i : Nat, mask[i]? ≠ some true → bytes'[i]? = bytes[i]?)
    (flags : ∀ i : Nat, mask[i]? = some true → (bytes'[i]? = some 0 ↔ bytes[i]? = some 0)) :
    settle mask bytes' = settle mask bytes := by
  apply List.ext_getElem?
  intro i
  rw [getElem?_settle same, getElem?_settle (same.trans length.symm)]
  by_cases flag : mask[i]? = some true
  · have zero := flags i flag
    have inside : i < bytes.length := by
      obtain ⟨inside, -⟩ := List.getElem?_eq_some_iff.mp flag
      omega
    have inside' : i < bytes'.length := by omega
    rw [List.getElem?_eq_getElem inside, List.getElem?_eq_getElem inside'] at zero ⊢
    simp only [Option.some.injEq] at zero
    simp [flag, zero]
  · rw [plain i flag]

/-- Settled bytes are the bytes themselves exactly when every flag is zero or one. -/
theorem settle_eq_iff {mask : List Bool} {bytes : List UInt8} (same : mask.length = bytes.length) :
    settle mask bytes = bytes ↔
      ∀ i : Nat, mask[i]? = some true → bytes[i]? = some 0 ∨ bytes[i]? = some 1 := by
  constructor
  · intro settled i flag
    have here := getElem?_settle same i
    simp only [settled, flag, ↓reduceIte] at here
    have inside : i < bytes.length := by
      obtain ⟨inside, -⟩ := List.getElem?_eq_some_iff.mp flag
      omega
    rw [List.getElem?_eq_getElem inside] at here ⊢
    by_cases zero : bytes[i] = 0 <;> simp_all
  · intro settled
    apply List.ext_getElem?
    intro i
    rw [getElem?_settle same]
    by_cases flag : mask[i]? = some true
    · rcases settled i flag with zero | one
      · simp [zero]
      · simp [one]
    · simp [flag]

private theorem fifteen_bytes_a_territory (t : Territory) : 15 ≤ (flagMask (Layout.territory t)).length := by
  simp only [flagMask, Layout.territory, layout_string, Layout.counted, List.flatten_cons,
    List.flatMap_append, List.flatMap_cons, List.length_append, Item.mask, List.length_replicate,
    Width.size, List.length_cons]
  omega

/-- The header takes ten bytes and a territory at least fifteen. -/
theorem least_size (ts : List Territory) :
    10 + 15 * ts.length ≤ (flagMask (Layout.collection ts)).length := by
  have territories : 15 * ts.length ≤ (flagMask (ts.flatMap Layout.territory)).length := by
    induction ts with
    | nil => simp
    | cons t ts ih =>
      have one := fifteen_bytes_a_territory t
      simp only [flagMask, List.flatMap_cons, List.flatMap_append, List.length_append,
        List.length_cons] at one ih ⊢
      omega
  simp only [flagMask, Layout.collection, List.flatMap_cons, List.length_append, Item.mask,
    List.length_replicate, Width.size, magic, List.length_cons, List.length_nil] at territories ⊢
  omega

/-- The four bytes after the magic and the version spell the number of territories. -/
theorem header_count (accepted : decode payload = .ok ts) :
    Reader.bigEndian ((payload.drop 6).take 4) = ts.length := by
  obtain ⟨_, _, rfl, rfl, _, _, rfl, ⟨version, -, -, rfl⟩, _, _, rfl, ⟨count, small, same, rfl⟩, -⟩ :=
    (decode_eq_ok_iff payload ts).mp accepted
  have front : (magic ++ Width.u16.bytes version).length = 6 := rfl
  have four : (Width.u32.bytes count).length = 4 := rfl
  rw [← List.append_assoc, List.drop_left' front, List.take_left' four, bigEndian_bytes .u32 small]
  omega

/-- A payload that is read is the only spelling of its collection but for how its set flags are
spelled, and what is written of the collection is that spelling with every set flag one. -/
theorem accepted_payload_is_canonical_but_for_flags (accepted : decode payload = .ok ts) :
    ∃ settled, encode ts = .ok settled ∧ settled.length = payload.length ∧
      (∀ i, ¬FlagAt ts i → settled[i]? = payload[i]?) ∧
      (∀ i, FlagAt ts i → ∃ b, payload[i]? = some b ∧ settled[i]? = some (if b = 0 then 0 else 1)) ∧
      (∀ other : List UInt8, other.length = payload.length →
        (∀ i, ¬FlagAt ts i → other[i]? = payload[i]?) →
        (∀ i, FlagAt ts i → (other[i]? = some 0 ↔ payload[i]? = some 0)) → decode other = .ok ts) ∧
      (settled = payload ↔ ∀ i, FlagAt ts i → payload[i]? = some 0 ∨ payload[i]? = some 1) ∧
      decode settled = .ok ts ∧ Reader.bigEndian ((payload.drop 6).take 4) = ts.length ∧
      10 + 15 * ts.length ≤ payload.length := by
  obtain ⟨length, written⟩ := (decode_iff_settled payload ts).mp accepted
  refine ⟨_, written, length_settle length, ?_, ?_, ?_, settle_eq_iff length,
    (decode_eq_ok_iff _ ts).mpr (encode_spells written), header_count accepted, length ▸ least_size ts⟩
  · intro i plain
    rw [getElem?_settle length]
    simp only [FlagAt] at plain
    simp [plain]
  · intro i flag
    have inside : i < payload.length := by
      obtain ⟨inside, -⟩ := List.getElem?_eq_some_iff.mp flag
      omega
    refine ⟨payload[i], List.getElem?_eq_getElem inside, ?_⟩
    simp only [FlagAt] at flag
    rw [getElem?_settle length, List.getElem?_eq_getElem inside]
    simp [flag]
  · intro other same plain flags
    refine (decode_iff_settled other ts).mpr ⟨length.trans same.symm, ?_⟩
    rw [settle_congr length same plain flags]
    exact written

/-- Two set flags spelled as seven and as 255: what is written of the collection differs. -/
theorem loose_payload_is_not_canonical :
    ∃ settled, encode [⟨"", 44, true, [], [("", ⟨some "", none, [], []⟩)], []⟩] = .ok settled ∧
      settled.length = 39 ∧
      settled ≠ [80, 78, 77, 68, 0, 1, 0, 0, 0, 1, 0, 0, 0, 0, 0, 0, 0, 44, 7, 0, 0, 0, 1, 0, 0, 0, 0, 255,
        0, 0, 0, 0, 0, 0, 0, 0, 0, 0, 0] := by
  have accepted : decode [80, 78, 77, 68, 0, 1, 0, 0, 0, 1, 0, 0, 0, 0, 0, 0, 0, 44, 7, 0, 0, 0, 1, 0, 0, 0, 0,
      255, 0, 0, 0, 0, 0, 0, 0, 0, 0, 0, 0] =
      .ok [⟨"", 44, true, [], [("", ⟨some "", none, [], []⟩)], []⟩] := by decide +kernel
  obtain ⟨settled, written, length, -, -, -, same, -⟩ :=
    accepted_payload_is_canonical_but_for_flags accepted
  refine ⟨settled, written, length, fun equal => ?_⟩
  have flag := same.mp equal 18 (by rw [FlagAt]; decide)
  revert flag
  decide

end NumberingPlan.Wire
