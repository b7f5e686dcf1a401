import Mathlib.Control.Monad.Basic
import NumberingPlan.Proofs.WireReading

/-! What is known of a payload from its beginning. A reader that fails for any reason but a shortage
fails so whatever follows, one that falls short names the offset and the size it asked for, and one
that finishes takes nothing of what follows. So a payload that is read is no beginning of another. -/
namespace NumberingPlan.Wire

/-- The failures that more bytes cannot mend and that come before the end of a payload. -/
inductive Error.Final : Error → Prop where
  | badMagic : Final .badMagic
  | unsupportedVersion : Final (.unsupportedVersion version)
  | invalidText : Final (.invalidText malformed)

/-- How a failure on some bytes bears on more of them: it is a shortage, which goes on until the
bytes asked for are there, or it is final. -/
inductive Lasts {α : Type} (read : Reader α) (bytes : List UInt8) (offset : Nat) : Error → Prop where
  | short (reached : start ≤ offset + bytes.length) (lacking : offset + bytes.length < start + size)
      (still : ∀ more : List UInt8, offset + bytes.length + more.length < start + size →
        read ⟨bytes ++ more, offset⟩ = .error (.truncated start size)) :
      Lasts read bytes offset (.truncated start size)
  | final (kind : e.Final) (still : ∀ more, read ⟨bytes ++ more, offset⟩ = .error e) :
      Lasts read bytes offset e

/-- A reader that never looks past what it takes. -/
structure Steady {α : Type} (read : Reader α) : Prop where
  done : read ⟨bytes, offset⟩ = .ok (a, after) →
    after.offset + after.rest.length = offset + bytes.length ∧
      ∀ more, read ⟨bytes ++ more, offset⟩ = .ok (a, ⟨after.rest ++ more, after.offset⟩)
  failed : read ⟨bytes, offset⟩ = .error e → Lasts read bytes offset e

namespace Steady
variable {α β : Type} {read : Reader α} {next : α → Reader β}

theorem pure (a : α) : Steady (Pure.pure a : Reader α) where
  done := by
    rintro bytes offset _ _ ⟨⟩
    exact ⟨rfl, fun more => rfl⟩
  failed := by rintro _ _ _ ⟨⟩

theorem throw (kind : e.Final) : Steady (MonadExcept.throw e : Reader α) where
  done := by rintro _ _ _ _ ⟨⟩
  failed := by
    rintro _ _ _ ⟨⟩
    exact .final kind fun more => rfl

theorem bind (first : Steady read) (second : ∀ a, Steady (next a)) : Steady (read >>= next) := by
  constructor
  · intro bytes offset b after ran
    rw [Reader.run_bind] at ran
    cases start : read ⟨bytes, offset⟩ with
    | error e => simp [start] at ran
    | ok reply =>
      obtain ⟨a, middle⟩ := reply
      simp only [start] at ran
      obtain ⟨size, onward⟩ := first.done start
      obtain ⟨size', onward'⟩ := (second a).done ran
      refine ⟨size'.trans size, fun more => ?_⟩
      rw [Reader.run_bind, onward more]
      exact onward' more
  · intro bytes offset e ran
    rw [Reader.run_bind] at ran
    cases start : read ⟨bytes, offset⟩ with
    | error e' =>
      simp only [start, Except.error.injEq] at ran
      subst ran
      cases first.failed start with
      | short reached lacking still =>
        refine .short reached lacking fun more lack => ?_
        rw [Reader.run_bind, still more lack]
      | final kind still =>
        refine .final kind fun more => ?_
        rw [Reader.run_bind, still more]
    | ok reply =>
      obtain ⟨a, middle⟩ := reply
      simp only [start] at ran
      obtain ⟨size, onward⟩ := first.done start
      cases (second a).failed ran with
      | short reached lacking still =>
        refine .short (by omega) (by omega) fun more lack => ?_
        rw [Reader.run_bind, onward more]
        exact still more (by omega)
      | final kind still =>
        refine .final kind fun more => ?_
        rw [Reader.run_bind, onward more]
        exact still more

theorem map (steady : Steady read) (f : α → β) : Steady (f <$> read) := by
  rw [← bind_pure_comp]
  exact steady.bind fun a => .pure (f a)

theorem take (size : Nat) : Steady (Reader.take size) := by
  constructor
  · intro bytes offset chunk after ran
    simp only [Reader.take] at ran
    split at ran
    · cases ran
    · rename_i enough
      cases ran
      rw [List.length_take] at enough
      have inside : size ≤ bytes.length := by omega
      refine ⟨by simp only [List.length_drop]; omega, fun more => ?_⟩
      have still : ¬ ((bytes ++ more).take size).length < size := by
        rw [List.length_take, List.length_append]
        omega
      simp only [Reader.take, still, ↓reduceIte]
      rw [List.take_append_of_le_length inside, List.drop_append_of_le_length inside]
  · intro bytes offset e ran
    simp only [Reader.take] at ran
    split at ran
    · rename_i short
      cases ran
      rw [List.length_take] at short
      refine .short (by omega) (by omega) fun more lack => ?_
      have still : ((bytes ++ more).take size).length < size := by
        rw [List.length_take, List.length_append]
        omega
      simp only [Reader.take, still, ↓reduceIte]
    · cases ran

theorem guarded (next : Unit → Reader α) (refused : Prop) [Decidable refused] (kind : e.Final)
    (steady : Steady (next ())) :
    Steady (if refused then do let checked ← MonadExcept.throw e; next checked else next ()) := by
  by_cases stops : refused
  · simpa only [stops, ↓reduceIte] using (throw kind).bind fun _ => steady
  · simpa only [stops, ↓reduceIte] using steady

end Steady

private theorem u16_steady : Steady Reader.u16 := (Steady.take 2).map Reader.bigEndian

private theorem u32_steady : Steady Reader.u32 := (Steady.take 4).map Reader.bigEndian

private theorem flag_steady : Steady Reader.flag := (Steady.take 1).map _

/-- A text is judged only once all its bytes are there. -/
theorem text_steady : Steady Reader.text := by
  refine u32_steady.bind fun n => (Steady.take n).bind fun bytes => ?_
  cases Utf8.decode bytes with
  | ok s => exact .pure s
  | error malformed => exact .throw .invalidText

private theorem optionalText_steady : Steady Reader.optionalText := by
  refine flag_steady.bind fun present => ?_
  cases present with
  | false => exact .pure none
  | true => exact text_steady.map some

private theorem times_steady {α : Type} {read : Reader α} (steady : Steady read) (n : Nat) (done : List α) :
    Steady (Reader.times read n done) := by
  induction n generalizing done with
  | zero => exact .pure done.reverse
  | succ n ih =>
    rw [Reader.times_succ]
    exact steady.bind fun a => ih (a :: done)

private theorem counted_steady {α : Type} {read : Reader α} (steady : Steady read) : Steady (Reader.counted read) :=
  u16_steady.bind fun n => times_steady steady n []

private theorem lengths_steady : Steady Reader.lengths := counted_steady (u16_steady.map _)

private theorem desc_steady : Steady Reader.desc :=
  optionalText_steady.bind fun _ => optionalText_steady.bind fun _ => lengths_steady.bind fun _ =>
    lengths_steady.bind fun _ => .pure _

private theorem format_steady : Steady Reader.format :=
  text_steady.bind fun _ => text_steady.bind fun _ => (counted_steady text_steady).bind fun _ =>
    optionalText_steady.bind fun _ => optionalText_steady.bind fun _ => flag_steady.bind fun _ =>
    optionalText_steady.bind fun _ => .pure _

private theorem territory_steady : Steady Reader.territory :=
  text_steady.bind fun _ => u32_steady.bind fun _ => flag_steady.bind fun _ =>
    (counted_steady (text_steady.bind fun _ => text_steady.bind fun _ => .pure _)).bind fun _ =>
    (counted_steady (text_steady.bind fun _ => desc_steady.bind fun _ => .pure _)).bind fun _ =>
    (counted_steady format_steady).bind fun _ => .pure _

private theorem collection_steady : Steady Reader.collection :=
  (Steady.take magic.length).bind fun found => .guarded (fun _ => _) (found ≠ magic) .badMagic <|
    u16_steady.bind fun version => .guarded (fun _ => _) (version ≠ formatVersion) .unsupportedVersion <|
    u32_steady.bind fun n => times_steady territory_steady n []

/-- Reading a payload either finishes its territories, and then all hangs on whether bytes are left,
or fails in a way that says what longer payloads do. -/
theorem decode_cases (payload : List UInt8) :
    (∃ ts after, Reader.collection ⟨payload, 0⟩ = .ok (ts, after) ∧
      decode payload = if after.rest = [] then .ok ts else .error .trailingBytes) ∨
    ∃ e, Lasts Reader.collection payload 0 e ∧ decode payload = .error e := by
  cases ran : Reader.collection ⟨payload, 0⟩ with
  | error e =>
    refine .inr ⟨e, collection_steady.failed ran, ?_⟩
    simp [decode, ran, bind, Except.bind]
  | ok reply =>
    obtain ⟨ts, rest, offset⟩ := reply
    refine .inl ⟨ts, ⟨rest, offset⟩, rfl, ?_⟩
    cases rest <;> simp [decode, ran, bind, Except.bind, pure, Except.pure, throw, throwThe,
      MonadExceptOf.throw]

private theorem decode_of_failed (failed : Reader.collection ⟨payload, 0⟩ = .error e) :
    decode payload = .error e := by
  simp [decode, failed, bind, Except.bind]

/-- Territories that are read to their end leave what follows them unread. -/
theorem decode_append_of_finished (ran : Reader.collection ⟨payload, 0⟩ = .ok (ts, after))
    (longer : more ≠ []) : decode (payload ++ more) = .error .trailingBytes := by
  have onward := (collection_steady.done ran).2 more
  obtain ⟨b, rest, spelled⟩ := List.exists_cons_of_ne_nil
    (show after.rest ++ more ≠ [] from fun none => longer (List.append_eq_nil_iff.mp none).2)
  simp [decode, onward, spelled, bind, Except.bind, throw, throwThe, MonadExceptOf.throw]

/-- What becomes of a payload when bytes are added to it. One that was read, or had bytes left over,
has bytes left over; a final failure stays; a shortage names the place and the size that are lacking
and stays until they are there. There are no other failures, and so whatever comes before the end of
a payload that is read is short. -/
theorem decode_of_longer_payload (payload more : List UInt8) (longer : more ≠ []) :
    (∀ ts, decode payload = .ok ts → decode (payload ++ more) = .error .trailingBytes) ∧
    (decode payload = .error .trailingBytes → decode (payload ++ more) = .error .trailingBytes) ∧
    (∀ e, e.Final → decode payload = .error e → decode (payload ++ more) = .error e) ∧
    (∀ start size, decode payload = .error (.truncated start size) →
      Error.message (.truncated start size) =
        s!"Truncated payload at offset {start} (wanted {size} bytes)" ∧
      start ≤ payload.length ∧ payload.length < start + size ∧
        ((payload ++ more).length < start + size →
          decode (payload ++ more) = .error (.truncated start size))) ∧
    (∀ e, decode payload = .error e →
      e.Final ∨ e = .trailingBytes ∨ ∃ start size, e = .truncated start size) ∧
    (∀ ts, decode (payload ++ more) = .ok ts →
      ∃ start size, decode payload = .error (.truncated start size)) := by
  rcases decode_cases payload with ⟨ts, after, ran, outcome⟩ | ⟨e, lasts, outcome⟩
  · have trailing := decode_append_of_finished ran longer
    have ended : ∀ e, decode payload = .error e → e = .trailingBytes := by
      intro e failed
      rw [outcome] at failed
      split at failed <;> cases failed
      rfl
    refine ⟨fun _ _ => trailing, fun _ => trailing, ?_, ?_, ?_, ?_⟩
    · intro e kind failed
      obtain rfl := ended e failed
      exact trailing
    · intro start size failed
      cases ended _ failed
    · exact fun e failed => .inr (.inl (ended e failed))
    · intro ts accepted
      rw [trailing] at accepted
      cases accepted
  · rw [outcome]
    cases lasts with
    | short reached lacking still =>
      simp only [Nat.zero_add] at reached lacking still
      refine ⟨by rintro _ ⟨⟩, by rintro ⟨⟩, by rintro _ ⟨⟩ ⟨⟩, ?_, ?_, ?_⟩
      · rintro start size ⟨⟩
        refine ⟨rfl, reached, lacking, fun lack => decode_of_failed (still more ?_)⟩
        rwa [List.length_append] at lack
      · rintro e ⟨⟩
        exact .inr (.inr ⟨_, _, rfl⟩)
      · exact fun ts _ => ⟨_, _, rfl⟩
    | final kind still =>
      have stays := decode_of_failed (still more)
      refine ⟨by rintro _ ⟨⟩, ?_, ?_, ?_, ?_, ?_⟩
      · rintro ⟨⟩
        exact stays
      · rintro _ _ ⟨⟩
        exact stays
      · rintro start size ⟨⟩
        cases kind
      · rintro _ ⟨⟩
        exact .inl kind
      · intro ts accepted
        rw [stays] at accepted
        cases accepted

/-- A payload cut inside a character is short by the whole text, also with the character's last byte. -/
theorem cut_inside_a_character :
    decode ([80, 78, 77, 68, 0, 1, 0, 0, 0, 1, 0, 0, 0, 5, 195] ++ [169]) = .error (.truncated 14 5) := by
  have short : decode [80, 78, 77, 68, 0, 1, 0, 0, 0, 1, 0, 0, 0, 5, 195] = .error (.truncated 14 5) := by
    decide +kernel
  obtain ⟨-, -, -, shortage, -, -⟩ := decode_of_longer_payload
    [80, 78, 77, 68, 0, 1, 0, 0, 0, 1, 0, 0, 0, 5, 195] [169] (by decide)
  obtain ⟨-, -, -, still⟩ := shortage 14 5 short
  exact still (by decide)

end NumberingPlan.Wire
