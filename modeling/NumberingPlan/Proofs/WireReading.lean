import NumberingPlan.Proofs.Utf8Spelling
import NumberingPlan.Proofs.WireSpelling
import NumberingPlan.Wire.Reader

/-! The reader accepts exactly the spellings of a collection's layout. Readers are described by the
bytes they go over and what these mean, and the descriptions compose as the readers do; a record is
read field by field, in the order of its layout. -/
namespace NumberingPlan.Wire

theorem Reader.run_bind {α β : Type} (read : Reader α) (next : α → Reader β) (cursor : Cursor) :
    (read >>= next) cursor = match read cursor with
      | .ok (a, middle) => next a middle
      | .error e => .error e := by
  simp only [bind, StateT.bind]
  cases read cursor <;> rfl

theorem Reader.times_succ {α : Type} (read : Reader α) (n : Nat) (done : List α) :
    Reader.times read (n + 1) done = read >>= fun a => Reader.times read n (a :: done) := by
  funext cursor
  simp only [Reader.run_bind, Reader.times]
  cases read cursor <;> rfl

/-- A reader went over these bytes and no others. -/
def Consumes (before : Cursor) (bytes : List UInt8) (after : Cursor) : Prop :=
  before.rest = bytes ++ after.rest ∧ after.offset = before.offset + bytes.length

private theorem consumes_append (before after : Cursor) (u v : List UInt8) :
    Consumes before (u ++ v) after ↔ ∃ middle, Consumes before u middle ∧ Consumes middle v after := by
  constructor
  · rintro ⟨rest, offset⟩
    refine ⟨⟨v ++ after.rest, before.offset + u.length⟩, ⟨by simp [rest], rfl⟩, rfl, ?_⟩
    simp [offset, Nat.add_assoc]
  · rintro ⟨middle, ⟨rest, offset⟩, rest', offset'⟩
    exact ⟨by simp [rest, rest'], by simp [offset, offset', Nat.add_assoc]⟩

/-- A reader gives a value exactly when it goes over bytes of this meaning. -/
def Accepts {α : Type} (read : Reader α) (meaning : α → List UInt8 → Prop) : Prop :=
  ∀ before a after, read before = .ok (a, after) ↔ ∃ bytes, Consumes before bytes after ∧ meaning a bytes

namespace Accepts
variable {α β : Type} {read : Reader α} {meaning : α → List UInt8 → Prop}

theorem congr {meaning' : α → List UInt8 → Prop} (accepts : Accepts read meaning)
    (same : ∀ a bytes, meaning a bytes ↔ meaning' a bytes) : Accepts read meaning' := by
  intro before a after
  rw [accepts]
  exact exists_congr fun bytes => and_congr_right fun _ => same a bytes

theorem pure (a : α) : Accepts (Pure.pure a) fun b bytes => b = a ∧ bytes = [] := by
  intro before b after
  constructor
  · rintro ⟨⟩
    exact ⟨[], ⟨rfl, rfl⟩, rfl, rfl⟩
  · rintro ⟨_, ⟨rest, offset⟩, rfl, rfl⟩
    obtain ⟨beforeRest, beforeOffset⟩ := before
    obtain ⟨afterRest, afterOffset⟩ := after
    cases rest
    cases offset
    rfl

theorem throw (e : Error) : Accepts (MonadExcept.throw e : Reader α) fun _ _ => False := by
  intro before a after
  constructor
  · rintro ⟨⟩
  · rintro ⟨_, _, ⟨⟩⟩

/-- One reader after another goes over the bytes of both. -/
theorem bind {next : α → Reader β} {later : α → β → List UInt8 → Prop} (left : Accepts read meaning)
    (right : ∀ a, Accepts (next a) (later a)) :
    Accepts (read >>= next) fun b bytes => ∃ a u v, bytes = u ++ v ∧ meaning a u ∧ later a b v := by
  intro before b after
  have unfolded : (read >>= next) before = .ok (b, after) ↔
      ∃ a middle, read before = .ok (a, middle) ∧ next a middle = .ok (b, after) := by
    rw [Reader.run_bind]
    cases read before with
    | error e => simp
    | ok reply =>
      obtain ⟨a, middle⟩ := reply
      constructor
      · exact fun ran => ⟨a, middle, rfl, ran⟩
      · rintro ⟨_, _, ⟨⟩, ran⟩
        exact ran
  rw [unfolded]
  constructor
  · rintro ⟨a, middle, ran, ran'⟩
    obtain ⟨u, consumed, held⟩ := (left before a middle).mp ran
    obtain ⟨v, consumed', held'⟩ := (right a middle b after).mp ran'
    exact ⟨u ++ v, (consumes_append ..).mpr ⟨middle, consumed, consumed'⟩, a, u, v, rfl, held, held'⟩
  · rintro ⟨_, consumed, a, u, v, rfl, held, held'⟩
    obtain ⟨middle, consumed, consumed'⟩ := (consumes_append ..).mp consumed
    exact ⟨a, middle, (left before a middle).mpr ⟨u, consumed, held⟩,
      (right a middle b after).mpr ⟨v, consumed', held'⟩⟩

theorem map (accepts : Accepts read meaning) (f : α → β) :
    Accepts (f <$> read) fun b bytes => ∃ a, b = f a ∧ meaning a bytes := by
  rw [← bind_pure_comp]
  refine (accepts.bind fun a => pure (f a)).congr fun b bytes => ?_
  constructor
  · rintro ⟨a, u, _, rfl, held, rfl, rfl⟩
    exact ⟨a, rfl, by simpa using held⟩
  · rintro ⟨a, rfl, held⟩
    exact ⟨a, bytes, [], by simp, held, rfl, rfl⟩

/-- After a check the reader goes on only with what the check lets through. -/
theorem guarded (next : Unit → Reader α) (refused : Prop) [Decidable refused] (e : Error)
    (accepts : Accepts (next ()) meaning) :
    Accepts (if refused then do let checked ← MonadExcept.throw e; next checked else next ())
      fun a bytes => ¬refused ∧ meaning a bytes := by
  by_cases stops : refused
  · simp only [stops, ↓reduceIte, not_true_eq_false, false_and]
    exact ((throw e).bind fun _ => accepts).congr fun a bytes => by simp
  · simpa only [stops, ↓reduceIte, not_false_eq_true, true_and] using accepts

end Accepts

private theorem take_accepts (size : Nat) : Accepts (Reader.take size) fun chunk bytes =>
    chunk = bytes ∧ bytes.length = size := by
  intro before chunk after
  simp only [Reader.take]
  split
  · rename_i short
    simp only [reduceCtorEq, false_iff]
    rintro ⟨bytes, ⟨rest, _⟩, rfl, rfl⟩
    simp [rest] at short
  · rename_i enough
    constructor
    · rintro ⟨⟩
      have length : (before.rest.take size).length = size := by
        rw [List.length_take] at enough ⊢
        omega
      exact ⟨before.rest.take size, ⟨by simp, by rw [length]⟩, rfl, length⟩
    · rintro ⟨bytes, ⟨rest, offset⟩, rfl, rfl⟩
      obtain ⟨afterRest, afterOffset⟩ := after
      simp_all

/-- A reader accepts exactly the spellings of the layout of what it gives. -/
abbrev Reads {α : Type} (read : Reader α) (layout : α → List Item) : Prop :=
  Accepts read fun a bytes => SpelledBy (layout a) bytes

namespace Reads
variable {α β : Type} {read : Reader α} {layout : α → List Item} {next : α → Reader β}
  {later : β → List Item} {known : β → Prop}

/-- A record is read field by field: what is known of it grows by the field just read, and the
field's items stand before those of the fields still to come. -/
theorem field (value : β → α) (left : Reads read layout)
    (right : ∀ a, Accepts (next a) fun b bytes => (known b ∧ value b = a) ∧ SpelledBy (later b) bytes) :
    Accepts (read >>= next) fun b bytes => known b ∧ SpelledBy (layout (value b) ++ later b) bytes := by
  refine (left.bind right).congr fun b bytes => ?_
  rw [spelledBy_append]
  constructor
  · rintro ⟨_, u, v, rfl, spelled, ⟨kept, rfl⟩, spelled'⟩
    exact ⟨kept, u, v, rfl, spelled, spelled'⟩
  · rintro ⟨kept, u, v, rfl, spelled, spelled'⟩
    exact ⟨_, u, v, rfl, spelled, ⟨kept, rfl⟩, spelled'⟩

/-- After its last field a record is known whole. -/
theorem record (b : β) (whole : ∀ b', known b' ↔ b' = b) :
    Accepts (pure b : Reader β) fun b' bytes => known b' ∧ SpelledBy [] bytes :=
  (Accepts.pure b).congr fun b' bytes => by rw [whole]; rfl

/-- Before its first field nothing is known of a record. -/
theorem of_fields (accepts : Accepts read fun a bytes => True ∧ SpelledBy (layout a) bytes) :
    Reads read layout :=
  accepts.congr fun a bytes => by rw [true_and]

end Reads

theorem bigEndian_bytes (width : Width) {n : Nat} (small : n < width.bound) :
    Reader.bigEndian (width.bytes n) = n := by
  cases width with
  | u16 =>
    simp only [Width.bound] at small
    simp [Reader.bigEndian, Width.bytes, bytes16]
    omega
  | u32 =>
    simp only [Width.bound] at small
    simp [Reader.bigEndian, Width.bytes, bytes32, bytes16]
    omega

private theorem two_of_length {bytes : List UInt8} (length : bytes.length = 2) :
    ∃ a b, bytes = [a, b] := by
  rcases bytes with _ | ⟨a, _ | ⟨b, _ | ⟨c, rest⟩⟩⟩ <;> simp at length
  exact ⟨a, b, rfl⟩

private theorem four_of_length {bytes : List UInt8} (length : bytes.length = 4) :
    ∃ a b c d, bytes = [a, b, c, d] := by
  rcases bytes with _ | ⟨a, _ | ⟨b, _ | ⟨c, _ | ⟨d, _ | ⟨e, rest⟩⟩⟩⟩⟩ <;> simp at length
  exact ⟨a, b, c, d, rfl⟩

/-- Any bytes of a width spell a number that fits it, and no other bytes spell that number. -/
theorem bytes_bigEndian (width : Width) (bytes : List UInt8) (length : bytes.length = width.size) :
    Reader.bigEndian bytes < width.bound ∧ width.bytes (Reader.bigEndian bytes) = bytes := by
  cases width with
  | u16 =>
    obtain ⟨a, b, rfl⟩ := two_of_length length
    have highA := a.toNat_lt
    have highB := b.toNat_lt
    simp [Reader.bigEndian, Width.bytes, bytes16, Width.bound, ← UInt8.toNat_inj]
    omega
  | u32 =>
    obtain ⟨a, b, c, d, rfl⟩ := four_of_length length
    have highA := a.toNat_lt
    have highB := b.toNat_lt
    have highC := c.toNat_lt
    have highD := d.toNat_lt
    simp [Reader.bigEndian, Width.bytes, bytes32, bytes16, Width.bound, ← UInt8.toNat_inj]
    omega

/-- A number is read from as many bytes as its width takes, the high one first. -/
theorem number_reads (width : Width) :
    Reads (Reader.bigEndian <$> Reader.take width.size) fun n => [.number n width] := by
  refine ((take_accepts width.size).map Reader.bigEndian).congr fun n bytes => ?_
  rw [spelledBy_singleton]
  constructor
  · rintro ⟨chunk, rfl, rfl, length⟩
    obtain ⟨small, same⟩ := bytes_bigEndian width chunk length
    exact ⟨_, small, rfl, same.symm⟩
  · rintro ⟨m, small, same, rfl⟩
    obtain rfl : m = n := by omega
    exact ⟨_, (bigEndian_bytes width small).symm, rfl, width.bytes_length m⟩

private theorem u16_reads : Reads Reader.u16 fun n => [.number n .u16] := number_reads .u16

private theorem u32_reads : Reads Reader.u32 fun n => [.number n .u32] := number_reads .u32

/-- A number that is kept as an integer is read as any number. -/
theorem integer_reads {read : Reader Nat} {width : Width}
    (reads : Reads read fun n => [.number n width]) :
    Reads ((fun n : Nat => (n : Int)) <$> read) fun value => [.number value width] := by
  refine (reads.map fun n : Nat => (n : Int)).congr fun value bytes => ?_
  constructor
  · rintro ⟨n, rfl, spelled⟩
    exact spelled
  · intro spelled
    obtain ⟨n, small, rfl, rfl⟩ := (spelledBy_singleton ..).mp spelled
    exact ⟨n, rfl, spelled⟩

private theorem flag_reads : Reads Reader.flag fun set => [.flag set] := by
  refine ((take_accepts 1).map fun bytes => Reader.bigEndian bytes != 0).congr fun set bytes => ?_
  have nonzero (b : UInt8) : (Reader.bigEndian [b] != 0) = (b != 0) :=
    Bool.eq_iff_iff.mpr (by simp [Reader.bigEndian, ← UInt8.toNat_inj])
  rw [spelledBy_singleton]
  constructor
  · rintro ⟨chunk, rfl, rfl, length⟩
    obtain ⟨b, rfl⟩ := List.length_eq_one_iff.mp length
    exact ⟨b, rfl, nonzero b⟩
  · rintro ⟨b, rfl, rfl⟩
    exact ⟨[b], (nonzero b).symm, rfl, rfl⟩

/-- Bytes are taken as the characters that they decode to. -/
private theorem characters_accepts (read : List UInt8 → Reader String)
    (spelled : ∀ bytes text, Utf8.decode bytes = .ok text → read bytes = pure text)
    (refused : ∀ bytes malformed, Utf8.decode bytes = .error malformed →
      read bytes = throw (.invalidText malformed)) (bytes : List UInt8) :
    Accepts (read bytes) fun s rest => bytes = Utf8.encode s ∧ rest = [] := by
  cases decoded : Utf8.decode bytes with
  | ok text =>
    rw [spelled bytes text decoded]
    refine (Accepts.pure text).congr fun s rest => ?_
    rw [← Utf8.decode_eq_ok_iff, decoded, Except.ok.injEq, eq_comm]
  | error malformed =>
    rw [refused bytes malformed decoded]
    refine (Accepts.throw _).congr fun s rest => ?_
    rw [← Utf8.decode_eq_ok_iff, decoded]
    simp

/-- A text is read from the one spelling of its characters. -/
theorem text_reads : Reads Reader.text Layout.text := by
  refine (u32_reads.bind fun n => (take_accepts n).bind (characters_accepts _ ?_ ?_)).congr fun s bytes => ?_
  · intro bytes text decoded
    simp only [decoded]
  · intro bytes malformed decoded
    simp only [decoded]
  constructor
  · rintro ⟨n, u, _, rfl, number, _, v, _, rfl, ⟨rfl, rfl⟩, rfl, rfl⟩
    exact ⟨u, Utf8.encode s, by simp, (spelledBy_singleton ..).mp number,
      (spelledBy_singleton ..).mpr rfl⟩
  · rintro ⟨u, v, rfl, number, octets⟩
    obtain rfl := (spelledBy_singleton ..).mp octets
    exact ⟨_, u, _, rfl, (spelledBy_singleton ..).mpr number, _, _, [], by simp, ⟨rfl, rfl⟩, rfl, rfl⟩

private theorem optionalText_reads : Reads Reader.optionalText Layout.optionalText := by
  have characters (present : Bool) : Accepts
      (if present then some <$> Reader.text else (pure none : Reader (Option String)))
      fun s bytes => present = s.isSome ∧ SpelledBy (s.elim [] Layout.text) bytes := by
    cases present with
    | false =>
      refine (Accepts.pure none).congr fun s bytes => ?_
      cases s <;> simp [SpelledBy]
    | true =>
      refine (text_reads.map some).congr fun s bytes => ?_
      cases s <;> simp
  refine (flag_reads.bind characters).congr fun s bytes => ?_
  constructor
  · rintro ⟨_, u, v, rfl, present, rfl, spelled⟩
    exact ⟨u, v, rfl, (spelledBy_singleton ..).mp present, spelled⟩
  · rintro ⟨u, v, rfl, present, spelled⟩
    exact ⟨_, u, v, rfl, (spelledBy_singleton ..).mpr present, rfl, spelled⟩

/-- Reading so many members gives exactly so many, in order. -/
theorem times_accepts {α : Type} {read : Reader α} {layout : α → List Item} (reads : Reads read layout)
    (n : Nat) (done : List α) :
    Accepts (Reader.times read n done) fun members bytes => ∃ more, members = done.reverse ++ more ∧
      more.length = n ∧ SpelledBy (more.flatMap layout) bytes := by
  induction n generalizing done with
  | zero =>
    refine (Accepts.pure done.reverse).congr fun members bytes => ?_
    constructor
    · rintro ⟨rfl, rfl⟩
      exact ⟨[], by simp, rfl, rfl⟩
    · rintro ⟨more, rfl, none, spelled⟩
      obtain rfl := List.length_eq_zero_iff.mp none
      exact ⟨by simp, spelled⟩
  | succ n ih =>
    rw [Reader.times_succ]
    refine (reads.bind fun a => ih (a :: done)).congr fun members bytes => ?_
    constructor
    · rintro ⟨a, u, v, rfl, spelled, more, rfl, length, rest⟩
      exact ⟨a :: more, by simp, by simp [length], (spelledBy_append ..).mpr ⟨u, v, rfl, spelled, rest⟩⟩
    · rintro ⟨_ | ⟨a, more⟩, rfl, length, spelled⟩
      · cases length
      · obtain ⟨u, v, rfl, first, rest⟩ := (spelledBy_append ..).mp spelled
        exact ⟨a, u, v, rfl, first, more, by simp, by simpa using length, rest⟩

/-- A list after its length is read from as many members as the length says. -/
theorem members_reads {α : Type} {read : Reader α} {layout : α → List Item} {count : Reader Nat}
    {width : Width} (counts : Reads count fun n => [.number n width]) (reads : Reads read layout) :
    Reads (count >>= fun n => Reader.times read n [])
      fun members => .number members.length width :: members.flatMap layout := by
  refine (counts.bind fun n => times_accepts reads n []).congr fun members bytes => ?_
  constructor
  · rintro ⟨_, u, v, rfl, number, more, rfl, rfl, spelled⟩
    exact ⟨u, v, rfl, (spelledBy_singleton ..).mp number, spelled⟩
  · rintro ⟨u, v, rfl, number, spelled⟩
    exact ⟨_, u, v, rfl, (spelledBy_singleton ..).mpr number, members, rfl, rfl, spelled⟩

private theorem counted_reads {α : Type} {read : Reader α} {layout : α → List Item} (reads : Reads read layout) :
    Reads (Reader.counted read) (Layout.counted layout) :=
  members_reads u16_reads reads

private theorem desc_reads : Reads Reader.desc Layout.desc :=
  .of_fields <| Reads.field NumberDesc.pattern optionalText_reads fun _ =>
    Reads.field NumberDesc.exampleNumber optionalText_reads fun _ =>
    Reads.field NumberDesc.lengths (counted_reads (integer_reads u16_reads)) fun _ =>
    Reads.field NumberDesc.localLengths (counted_reads (integer_reads u16_reads)) fun _ =>
    Reads.record _ fun d => by
      cases d
      simp [and_assoc]

private theorem format_reads : Reads Reader.format Layout.format :=
  .of_fields <| Reads.field NumberFormat.pattern text_reads fun _ =>
    Reads.field NumberFormat.format text_reads fun _ =>
    Reads.field NumberFormat.leadingDigits (counted_reads text_reads) fun _ =>
    Reads.field NumberFormat.intlFormat optionalText_reads fun _ =>
    Reads.field NumberFormat.nationalPrefixRule optionalText_reads fun _ =>
    Reads.field NumberFormat.nationalPrefixOptional flag_reads fun _ =>
    Reads.field NumberFormat.carrierCodeRule optionalText_reads fun _ =>
    Reads.record _ fun f => by
      cases f
      simp [and_assoc]

private theorem namedText_reads : Reads Reader.namedText Layout.namedText :=
  .of_fields <| Reads.field Prod.fst text_reads fun _ => Reads.field Prod.snd text_reads fun _ =>
    Reads.record _ fun pair => by
      cases pair
      simp

private theorem namedDesc_reads : Reads Reader.namedDesc Layout.namedDesc :=
  .of_fields <| Reads.field Prod.fst text_reads fun _ => Reads.field Prod.snd desc_reads fun _ =>
    Reads.record _ fun pair => by
      cases pair
      simp

/-- A territory is read in the order of its layout, at every depth. -/
theorem territory_reads : Reads Reader.territory Layout.territory := by
  have codeIsInteger : Reader.territory = do
    return {
      id := ← Reader.text
      countryCode := ← (fun n : Nat => (n : Int)) <$> Reader.u32
      isMain := ← Reader.flag
      attributes := ← Reader.counted Reader.namedText
      descriptions := ← Reader.counted Reader.namedDesc
      formats := ← Reader.counted Reader.format } := by
    simp [Reader.territory]
  rw [codeIsInteger]
  exact .of_fields <| Reads.field Territory.id text_reads fun _ =>
    Reads.field Territory.countryCode (integer_reads u32_reads) fun _ =>
    Reads.field Territory.isMain flag_reads fun _ =>
    Reads.field Territory.attributes (counted_reads namedText_reads) fun _ =>
    Reads.field Territory.descriptions (counted_reads namedDesc_reads) fun _ =>
    Reads.field Territory.formats (counted_reads format_reads) fun _ =>
    Reads.record _ fun t => by
      cases t
      simp [and_assoc]

private theorem collection_reads : Reads Reader.collection Layout.collection := by
  have body := members_reads u32_reads territory_reads
  have versioned := u16_reads.bind fun version =>
    Accepts.guarded (fun _ => _) (version ≠ formatVersion) (.unsupportedVersion version) body
  refine ((take_accepts magic.length).bind fun found =>
    Accepts.guarded (fun _ => _) (found ≠ magic) .badMagic versioned).congr fun ts bytes => ?_
  simp only [ne_eq, Decidable.not_not]
  constructor
  · rintro ⟨_, u, _, rfl, ⟨rfl, -⟩, rfl, _, v, w, rfl, version, rfl, spelled⟩
    exact ⟨magic, _, rfl, rfl, v, w, rfl, (spelledBy_singleton ..).mp version, spelled⟩
  · rintro ⟨_, _, rfl, rfl, v, w, rfl, version, spelled⟩
    exact ⟨magic, magic, _, rfl, ⟨rfl, rfl⟩, rfl, formatVersion, v, w, rfl,
      (spelledBy_singleton ..).mpr version, rfl, spelled⟩

/-- A payload is read to its end exactly when it spells the layout of what is read from it. -/
theorem decode_eq_ok_iff (payload : List UInt8) (ts : List Territory) :
    decode payload = .ok ts ↔ SpelledBy (Layout.collection ts) payload := by
  have toEnd : decode payload = .ok ts ↔ ∃ offset, Reader.collection ⟨payload, 0⟩ = .ok (ts, ⟨[], offset⟩) := by
    unfold decode
    cases Reader.collection ⟨payload, 0⟩ with
    | error e => simp [bind, Except.bind]
    | ok reply =>
      obtain ⟨found, rest, offset⟩ := reply
      cases rest with
      | nil => simp [bind, Except.bind, pure, Except.pure]
      | cons b rest => simp [bind, Except.bind, throw, throwThe, MonadExceptOf.throw]
  rw [toEnd]
  constructor
  · rintro ⟨offset, ran⟩
    obtain ⟨bytes, ⟨rest, -⟩, spelled⟩ := (collection_reads ..).mp ran
    obtain rfl : payload = bytes := by simpa using rest
    exact spelled
  · intro spelled
    exact ⟨payload.length, (collection_reads ..).mpr ⟨payload, ⟨by simp, by simp⟩, spelled⟩⟩

end NumberingPlan.Wire
