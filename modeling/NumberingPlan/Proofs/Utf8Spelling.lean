import NumberingPlan.Text.Utf8

/-! Reading UTF-8 accepts exactly the bytes that writing produces, so a text has one spelling and
no overlong form or surrogate slips through. The reader goes byte by byte; what carries the proof is
what a started character promises about the bytes still to come. -/
namespace NumberingPlan.Utf8

private theorem exists_char {n : Nat} (valid : n.isValidChar) : ∃ c : Char, c.toNat = n :=
  ⟨Char.ofNatAux n valid, rfl⟩

private theorem char_scalar (c : Char) : c.toNat < 0xD800 ∨ 0xDFFF < c.toNat ∧ c.toNat < 0x110000 :=
  c.valid

private theorem toUInt8_eq {n : Nat} {b : UInt8} (same : n = b.toNat) : n.toUInt8 = b := by
  subst same
  simp

/-- A lead byte and its continuation spell one character, whose bytes they are. -/
theorem two_bytes_spell {b₀ b₁ : UInt8} (first : 0xC2 ≤ b₀.toNat ∧ b₀.toNat ≤ 0xDF)
    (second : 0x80 ≤ b₁.toNat ∧ b₁.toNat ≤ 0xBF) :
    ∃ c : Char, c.toNat = (b₀.toNat - 0xC0) * 64 + (b₁.toNat - 0x80) ∧ encodeChar c = [b₀, b₁] := by
  obtain ⟨c, value⟩ := exists_char (n := (b₀.toNat - 0xC0) * 64 + (b₁.toNat - 0x80)) (.inl (by omega))
  refine ⟨c, value, ?_⟩
  have large : ¬ c.toNat < 0x80 := by omega
  have small : c.toNat < 0x800 := by omega
  simp only [encodeChar, large, small, ↓reduceIte]
  rw [toUInt8_eq (b := b₀) (by omega), toUInt8_eq (b := b₁) (by omega)]

/-- Three bytes spell one character unless they are an overlong form or name a surrogate. -/
theorem three_bytes_spell {b₀ b₁ b₂ : UInt8} (first : 0xE0 ≤ b₀.toNat ∧ b₀.toNat ≤ 0xEF)
    (second : 0x80 ≤ b₁.toNat ∧ b₁.toNat ≤ 0xBF) (third : 0x80 ≤ b₂.toNat ∧ b₂.toNat ≤ 0xBF)
    (shortest : b₀.toNat = 0xE0 → 0xA0 ≤ b₁.toNat) (scalar : b₀.toNat = 0xED → b₁.toNat ≤ 0x9F) :
    ∃ c : Char, c.toNat = ((b₀.toNat - 0xE0) * 64 + (b₁.toNat - 0x80)) * 64 + (b₂.toNat - 0x80) ∧
      encodeChar c = [b₀, b₁, b₂] := by
  obtain ⟨c, value⟩ := exists_char
    (n := ((b₀.toNat - 0xE0) * 64 + (b₁.toNat - 0x80)) * 64 + (b₂.toNat - 0x80))
    (by unfold Nat.isValidChar; omega)
  refine ⟨c, value, ?_⟩
  have large : ¬ c.toNat < 0x80 := by omega
  have larger : ¬ c.toNat < 0x800 := by omega
  have small : c.toNat < 0x10000 := by omega
  simp only [encodeChar, large, larger, small, ↓reduceIte]
  rw [toUInt8_eq (b := b₀) (by omega), toUInt8_eq (b := b₁) (by omega),
    toUInt8_eq (b := b₂) (by omega)]

/-- Four bytes spell one character unless they are an overlong form or lie above the last one. -/
theorem four_bytes_spell {b₀ b₁ b₂ b₃ : UInt8} (first : 0xF0 ≤ b₀.toNat ∧ b₀.toNat ≤ 0xF4)
    (second : 0x80 ≤ b₁.toNat ∧ b₁.toNat ≤ 0xBF) (third : 0x80 ≤ b₂.toNat ∧ b₂.toNat ≤ 0xBF)
    (fourth : 0x80 ≤ b₃.toNat ∧ b₃.toNat ≤ 0xBF)
    (shortest : b₀.toNat = 0xF0 → 0x90 ≤ b₁.toNat) (scalar : b₀.toNat = 0xF4 → b₁.toNat ≤ 0x8F) :
    ∃ c : Char, c.toNat = (((b₀.toNat - 0xF0) * 64 + (b₁.toNat - 0x80)) * 64 +
        (b₂.toNat - 0x80)) * 64 + (b₃.toNat - 0x80) ∧ encodeChar c = [b₀, b₁, b₂, b₃] := by
  obtain ⟨c, value⟩ := exists_char (n := (((b₀.toNat - 0xF0) * 64 + (b₁.toNat - 0x80)) * 64 +
    (b₂.toNat - 0x80)) * 64 + (b₃.toNat - 0x80)) (by unfold Nat.isValidChar; omega)
  refine ⟨c, value, ?_⟩
  have large : ¬ c.toNat < 0x80 := by omega
  have larger : ¬ c.toNat < 0x800 := by omega
  have largest : ¬ c.toNat < 0x10000 := by omega
  simp only [encodeChar, large, larger, largest, ↓reduceIte]
  rw [toUInt8_eq (b := b₀) (by omega), toUInt8_eq (b := b₁) (by omega),
    toUInt8_eq (b := b₂) (by omega), toUInt8_eq (b := b₃) (by omega)]

/-- What the bytes read so far promise: any bytes in the ranges still to come complete them to the
bytes of one character, which has the bits collected on the way. -/
def Promises : Nat → Nat → Nat → Nat → List UInt8 → Prop
  | 0, _, _, bits, taken => ∃ c : Char, c.toNat = bits ∧ encodeChar c = taken
  | owed + 1, low, high, bits, taken => ∀ b : UInt8, low ≤ b.toNat → b.toNat ≤ high →
      Promises owed 0x80 0xBF (bits * 64 + (b.toNat - 0x80)) (taken ++ [b])

/-- The reader's state and the bytes it has taken of the character it is in. -/
def Taken : Option Pending → List UInt8 → Prop
  | none, taken => taken = []
  | some p, taken => 0 < p.owed ∧ Promises p.owed p.low p.high p.bits taken

private theorem ofFirst?_two {b : UInt8} (first : 0xC2 ≤ b.toNat ∧ b.toNat ≤ 0xDF) :
    Pending.ofFirst? b = some ⟨b, 1, 1, 0x80, 0xBF, b.toNat - 0xC0⟩ := by
  simp [Pending.ofFirst?, first]

private theorem ofFirst?_three {b : UInt8} (first : 0xE0 ≤ b.toNat ∧ b.toNat ≤ 0xEF) :
    Pending.ofFirst? b = some ⟨b, 1, 2, if b.toNat = 0xE0 then 0xA0 else 0x80,
      if b.toNat = 0xED then 0x9F else 0xBF, b.toNat - 0xE0⟩ := by
  have long : ¬ b.toNat ≤ 0xDF := by omega
  by_cases lowest : b.toNat = 0xE0
  · simp [Pending.ofFirst?, lowest]
  · by_cases surrogate : b.toNat = 0xED
    · simp [Pending.ofFirst?, surrogate]
    · have inner : 0xE1 ≤ b.toNat := by omega
      simp [Pending.ofFirst?, long, lowest, surrogate, inner, first.2]

private theorem ofFirst?_four {b : UInt8} (first : 0xF0 ≤ b.toNat ∧ b.toNat ≤ 0xF4) :
    Pending.ofFirst? b = some ⟨b, 1, 3, if b.toNat = 0xF0 then 0x90 else 0x80,
      if b.toNat = 0xF4 then 0x8F else 0xBF, b.toNat - 0xF0⟩ := by
  have long : ¬ b.toNat ≤ 0xEF := by omega
  have longer : ¬ b.toNat ≤ 0xDF := by omega
  have above : ¬ b.toNat = 0xE0 ∧ ¬ b.toNat = 0xED := by omega
  by_cases lowest : b.toNat = 0xF0
  · simp [Pending.ofFirst?, lowest]
  · by_cases highest : b.toNat = 0xF4
    · simp [Pending.ofFirst?, highest]
    · have inner : 0xF1 ≤ b.toNat ∧ b.toNat ≤ 0xF3 := by omega
      simp [Pending.ofFirst?, long, longer, above, lowest, highest, inner]

private theorem ofFirst?_range {b : UInt8} {p : Pending} (started : Pending.ofFirst? b = some p) :
    0xC2 ≤ b.toNat ∧ b.toNat ≤ 0xF4 := by
  refine Decidable.byContradiction fun outside => ?_
  simp only [Pending.ofFirst?, Bool.and_eq_true, decide_eq_true_eq, beq_iff_eq] at started
  repeat' split at started
  all_goals first | omega | cases started

/-- A lead byte begins a character whose promise holds: the range of the next byte leaves out
exactly the overlong forms, the surrogates and what lies above the last character. -/
theorem ofFirst?_promises {b : UInt8} {p : Pending} (started : Pending.ofFirst? b = some p) :
    Taken (some p) [b] := by
  have range := ofFirst?_range started
  by_cases two : b.toNat ≤ 0xDF
  · cases (ofFirst?_two ⟨range.1, two⟩).symm.trans started
    refine ⟨by simp, ?_⟩
    intro b₁ low₁ high₁
    exact two_bytes_spell ⟨range.1, two⟩ ⟨low₁, high₁⟩
  by_cases three : b.toNat ≤ 0xEF
  · cases (ofFirst?_three ⟨by omega, three⟩).symm.trans started
    refine ⟨by simp, ?_⟩
    intro b₁ low₁ high₁ b₂ low₂ high₂
    simp only at low₁ high₁
    exact three_bytes_spell (by omega) (by split at low₁ <;> split at high₁ <;> omega) ⟨low₂, high₂⟩
      (by split at low₁ <;> omega) (by split at high₁ <;> omega)
  · cases (ofFirst?_four ⟨by omega, range.2⟩).symm.trans started
    refine ⟨by simp, ?_⟩
    intro b₁ low₁ high₁ b₂ low₂ high₂ b₃ low₃ high₃
    simp only at low₁ high₁
    exact four_bytes_spell (by omega) (by split at low₁ <;> split at high₁ <;> omega) ⟨low₂, high₂⟩
      ⟨low₃, high₃⟩ (by split at low₁ <;> omega) (by split at high₁ <;> omega)

private theorem ascii_spells {b : UInt8} (ascii : b.toNat < 0x80) : encodeChar (Char.ofNat b.toNat) = [b] := by
  obtain ⟨c, value⟩ := exists_char (n := b.toNat) (.inl (by omega))
  have small : c.toNat < 0x80 := by omega
  rw [← value, Char.ofNat_toNat]
  simp only [encodeChar, small, ↓reduceIte]
  rw [toUInt8_eq value]

/-- Bytes of ASCII are the characters of their own numbers. -/
theorem encode_of_ascii {bytes : List UInt8} (ascii : ∀ b ∈ bytes, b.toNat < 0x80) :
    encode (String.ofList (bytes.map fun b => Char.ofNat b.toNat)) = bytes := by
  rw [encode, String.toList_ofList]
  induction bytes with
  | nil => rfl
  | cons b bytes ih =>
    obtain ⟨here, there⟩ := List.forall_mem_cons.mp ascii
    rw [List.map_cons, List.flatMap_cons, ascii_spells here, ih there]
    rfl

/-- Bytes that are read to their end are the bytes of the characters read, whatever was begun
before them. -/
theorem decodeFrom_spells (bytes : List UInt8) (offset : Nat) (pending : Option Pending)
    (done cs : List Char) (taken : List UInt8) (state : Taken pending taken)
    (ran : decodeFrom offset pending done bytes = .ok cs) :
    ∃ read, cs = done.reverse ++ read ∧ taken ++ bytes = read.flatMap encodeChar := by
  induction bytes generalizing offset pending done taken with
  | nil =>
    cases pending with
    | none =>
      cases ran
      exact ⟨[], by simp, by simpa [Taken] using state⟩
    | some p => cases ran
  | cons b rest ih =>
    cases pending with
    | none =>
      cases state
      simp only [decodeFrom] at ran
      split at ran
      · rename_i ascii
        obtain ⟨read, rfl, spelled⟩ := ih _ none _ [] rfl ran
        refine ⟨Char.ofNat b.toNat :: read, by simp, ?_⟩
        simp only [List.flatMap_cons, ascii_spells ascii, ← spelled]
        rfl
      · split at ran
        · rename_i p started
          exact ih _ (some p) _ [b] (ofFirst?_promises started) ran
        · cases ran
    | some p =>
      obtain ⟨positive, promise⟩ := state
      simp only [decodeFrom] at ran
      split at ran
      · rename_i inside
        simp only [Bool.and_eq_true, decide_eq_true_eq] at inside
        obtain ⟨owed, more⟩ : ∃ owed, p.owed = owed + 1 := ⟨p.owed - 1, by omega⟩
        rw [more] at promise
        have next := promise b inside.1 inside.2
        split at ran
        · rename_i last
          obtain rfl : owed = 0 := by simp [more] at last; omega
          obtain ⟨c, value, bytes⟩ := next
          obtain ⟨read, rfl, spelled⟩ := ih _ none _ [] rfl ran
          refine ⟨c :: read, ?_, ?_⟩
          · simp [← value]
          · simp only [List.flatMap_cons, bytes, ← spelled]
            simp
        · rename_i notLast
          obtain ⟨read, rfl, spelled⟩ := ih _ (some _) _ (taken ++ [b])
            ⟨by simp [more] at notLast ⊢; omega, by simpa [more] using next⟩ ran
          exact ⟨read, rfl, by simpa using spelled⟩
      · cases ran

private theorem decodeFrom_first {b : UInt8} {p : Pending} (started : Pending.ofFirst? b = some p) :
    decodeFrom offset none done (b :: rest) = decodeFrom offset (some p) done rest := by
  have range := ofFirst?_range started
  have long : ¬ b.toNat < 0x80 := by omega
  simp [decodeFrom, long, started]

private theorem decodeFrom_next {b : UInt8} {p : Pending} (inside : p.low ≤ b.toNat ∧ b.toNat ≤ p.high)
    (more : p.owed ≠ 1) :
    decodeFrom offset (some p) done (b :: rest) = decodeFrom offset
      (some ⟨p.first, p.taken + 1, p.owed - 1, 0x80, 0xBF, p.bits * 64 + (b.toNat - 0x80)⟩) done rest := by
  simp [decodeFrom, inside, more]

private theorem decodeFrom_last {b : UInt8} {p : Pending} (inside : p.low ≤ b.toNat ∧ b.toNat ≤ p.high)
    (last : p.owed = 1) :
    decodeFrom offset (some p) done (b :: rest) = decodeFrom (offset + p.taken + 1) none
      (Char.ofNat (p.bits * 64 + (b.toNat - 0x80)) :: done) rest := by
  simp [decodeFrom, inside, last]

private theorem toNat_toUInt8 {n : Nat} (small : n < 256) : n.toUInt8.toNat = n := by
  simp
  omega

/-- The bytes of a character read back as the character, whatever follows. -/
theorem decodeFrom_encodeChar (c : Char) (offset : Nat) (done : List Char) (rest : List UInt8) :
    decodeFrom offset none done (encodeChar c ++ rest) =
      decodeFrom (offset + (encodeChar c).length) none (c :: done) rest := by
  have scalar := char_scalar c
  unfold encodeChar
  dsimp only
  generalize value : c.toNat = n at scalar
  have whole : Char.ofNat n = c := value ▸ Char.ofNat_toNat c
  split
  · have byte : n.toUInt8.toNat = n := toNat_toUInt8 (by omega)
    have ascii : n < 0x80 := ‹_›
    simp only [List.singleton_append, decodeFrom, byte, ascii, ↓reduceIte, whole, List.length_singleton]
  split
  · have first : (0xC0 + n / 64).toUInt8.toNat = 0xC0 + n / 64 := toNat_toUInt8 (by omega)
    have second : (0x80 + n % 64).toUInt8.toNat = 0x80 + n % 64 := toNat_toUInt8 (by omega)
    simp only [List.cons_append, List.nil_append]
    rw [decodeFrom_first (ofFirst?_two (by omega)), decodeFrom_last (by dsimp only; omega) rfl]
    have bits : (0xC0 + n / 64 - 0xC0) * 64 + (0x80 + n % 64 - 0x80) = n := by omega
    simp only [first, second, bits, whole, List.length_cons, List.length_nil]
  split
  · have first : (0xE0 + n / 4096).toUInt8.toNat = 0xE0 + n / 4096 := toNat_toUInt8 (by omega)
    have second : (0x80 + n / 64 % 64).toUInt8.toNat = 0x80 + n / 64 % 64 := toNat_toUInt8 (by omega)
    have third : (0x80 + n % 64).toUInt8.toNat = 0x80 + n % 64 := toNat_toUInt8 (by omega)
    simp only [List.cons_append, List.nil_append]
    rw [decodeFrom_first (ofFirst?_three (by omega)),
      decodeFrom_next (by dsimp only; constructor <;> split <;> omega) (by simp),
      decodeFrom_last (by dsimp only; omega) rfl]
    have bits : ((0xE0 + n / 4096 - 0xE0) * 64 + (0x80 + n / 64 % 64 - 0x80)) * 64 +
        (0x80 + n % 64 - 0x80) = n := by omega
    simp only [first, second, third, bits, whole, List.length_cons, List.length_nil]
  · have first : (0xF0 + n / 262144).toUInt8.toNat = 0xF0 + n / 262144 := toNat_toUInt8 (by omega)
    have second : (0x80 + n / 4096 % 64).toUInt8.toNat = 0x80 + n / 4096 % 64 :=
      toNat_toUInt8 (by omega)
    have third : (0x80 + n / 64 % 64).toUInt8.toNat = 0x80 + n / 64 % 64 := toNat_toUInt8 (by omega)
    have fourth : (0x80 + n % 64).toUInt8.toNat = 0x80 + n % 64 := toNat_toUInt8 (by omega)
    simp only [List.cons_append, List.nil_append]
    rw [decodeFrom_first (ofFirst?_four (by omega)),
      decodeFrom_next (by dsimp only; constructor <;> split <;> omega) (by simp),
      decodeFrom_next (by dsimp only; omega) (by simp), decodeFrom_last (by dsimp only; omega) rfl]
    have bits : (((0xF0 + n / 262144 - 0xF0) * 64 + (0x80 + n / 4096 % 64 - 0x80)) * 64 +
        (0x80 + n / 64 % 64 - 0x80)) * 64 + (0x80 + n % 64 - 0x80) = n := by omega
    simp only [first, second, third, fourth, bits, whole, List.length_cons, List.length_nil]

private theorem decodeFrom_encode (cs : List Char) (offset : Nat) (done : List Char) :
    decodeFrom offset none done (cs.flatMap encodeChar) = .ok (done.reverse ++ cs) := by
  induction cs generalizing offset done with
  | nil => simp [decodeFrom]
  | cons c cs ih =>
    rw [List.flatMap_cons, decodeFrom_encodeChar, ih]
    simp

/-- Reading accepts exactly what writing produces: every text has one spelling. -/
theorem decode_eq_ok_iff {bytes : List UInt8} {text : String} :
    decode bytes = .ok text ↔ bytes = encode text := by
  constructor
  · intro accepted
    unfold decode at accepted
    cases ran : decodeFrom 0 none [] bytes with
    | error malformed => simp [ran, Except.map] at accepted
    | ok cs =>
      simp only [ran, Except.map, Except.ok.injEq] at accepted
      obtain ⟨read, same, spelled⟩ := decodeFrom_spells bytes 0 none [] cs [] rfl ran
      subst accepted
      simpa [encode, same] using spelled
  · rintro rfl
    simp [decode, encode, decodeFrom_encode, Except.map]

end NumberingPlan.Utf8
