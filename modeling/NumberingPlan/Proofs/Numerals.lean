import Mathlib.Data.List.Induction
import Mathlib.Data.List.TakeDrop
import Mathlib.Data.List.TakeWhile
import NumberingPlan.Text.Numeral

/-! Numerals and what they are read as. A run of decimal digits of any script is read as the number that it
spells by place value, as long as it has no more digits than a numeral may have. No digit is blank, so
blanks around a text of digits can be told from it. -/
namespace NumberingPlan.Text

/-- A run of decimal digits spells a number: one digit its value, and a digit after a numeral ten times the
number before it and its value. -/
inductive Numeral : List Char → Nat → Prop where
  | digit (value : digitValue? c = some d) : Numeral [c] d
  | append (before : Numeral text n) (value : digitValue? c = some d) : Numeral (text ++ [c]) (10 * n + d)

private theorem isDecimalDigit_of_digitValue? (value : digitValue? c = some d) : isDecimalDigit c = true := by
  rw [isDecimalDigit, value]
  rfl

theorem Numeral.ne_nil (spelled : Numeral text n) : text ≠ [] := by
  cases spelled <;> simp

theorem Numeral.digits (spelled : Numeral text n) : ∀ c ∈ text, isDecimalDigit c = true := by
  induction spelled with
  | digit value =>
    intro c member
    rw [List.mem_singleton.mp member]
    exact isDecimalDigit_of_digitValue? value
  | append before value ih =>
    intro c member
    rcases List.mem_append.mp member with earlier | last
    · exact ih c earlier
    · rw [List.mem_singleton.mp last]
      exact isDecimalDigit_of_digitValue? value

/-- Every run of digits spells a number. -/
theorem Numeral.exists_of_digits (nonempty : text ≠ []) (digits : ∀ c ∈ text, isDecimalDigit c = true) :
    ∃ n, Numeral text n := by
  induction text using List.reverseRecOn with
  | nil => exact absurd rfl nonempty
  | append_singleton text c ih =>
    obtain ⟨d, value⟩ := Option.isSome_iff_exists.mp (digits c (by simp))
    by_cases empty : text = []
    · subst empty
      exact ⟨d, .digit value⟩
    · obtain ⟨n, before⟩ := ih empty fun c member => digits c (List.mem_append_left _ member)
      exact ⟨10 * n + d, .append before value⟩

/-- Without underscores a run of digits is read digit by digit. -/
theorem digitRun?_of_digits (nonempty : text ≠ []) (digits : ∀ c ∈ text, isDecimalDigit c = true) :
    digitRun? text = text.mapM digitValue? := by
  induction text with
  | nil => exact absurd rfl nonempty
  | cons c rest ih =>
    cases rest with
    | nil =>
      cases value : digitValue? c <;> simp [digitRun?, value]
    | cons c' rest =>
      have plain : c' ≠ '_' := by
        rintro rfl
        exact absurd (digits '_' (by simp)) (by decide)
      have whole := ih (List.cons_ne_nil _ _) fun d member => digits d (List.mem_cons_of_mem _ member)
      rw [List.mapM_cons, ← whole, digitRun?]
      · exact List.cons_ne_nil _ _
      · rintro more ⟨⟩
        exact plain rfl

/-- The values of the digits of a numeral make up its number. -/
theorem Numeral.values (spelled : Numeral text n) :
    ∃ digits, text.mapM digitValue? = some digits ∧ digits.length = text.length ∧ ofDigits digits = n := by
  induction spelled with
  | @digit c d value => exact ⟨[d], by simp [value], rfl, by simp [ofDigits]⟩
  | @append text n c d before value ih =>
    obtain ⟨digits, values, length, number⟩ := ih
    refine ⟨digits ++ [d], ?_, ?_, ?_⟩
    · simp [List.mapM_append, values, value]
    · simp [length]
    · rw [← number, ofDigits, ofDigits, List.foldl_append]
      rfl

/-- A numeral is read as its number if it is not too long. -/
theorem Numeral.natural?_eq (spelled : Numeral text n) :
    natural? text = if text.length ≤ maxDigits then some n else none := by
  obtain ⟨digits, values, length, number⟩ := spelled.values
  rw [← length, ← number, natural?, digitRun?_of_digits spelled.ne_nil spelled.digits, values]
  rfl

theorem Numeral.natural? (spelled : Numeral text n) (short : text.length ≤ maxDigits) :
    Text.natural? text = some n := by
  rw [spelled.natural?_eq, if_pos short]

/-- A run of digits is read as the number that it spells, and not at all if it is too long. -/
theorem natural?_eq_some_iff (nonempty : text ≠ []) (digits : ∀ c ∈ text, isDecimalDigit c = true) :
    natural? text = some n ↔ Numeral text n ∧ text.length ≤ maxDigits := by
  constructor
  · intro read
    obtain ⟨m, spelled⟩ := Numeral.exists_of_digits nonempty digits
    rw [spelled.natural?_eq, Option.ite_none_right_eq_some] at read
    obtain ⟨short, same⟩ := read
    exact ⟨Option.some.inj same ▸ spelled, short⟩
  · rintro ⟨spelled, short⟩
    exact spelled.natural? short

/-- The plain digits of a number are a numeral of it. -/
theorem numeral_toDigits (n : Nat) : Numeral (Nat.toDigits 10 n) n := by
  induction n using Nat.strongRecOn with
  | ind n ih =>
    have value : ∀ d < 10, digitValue? d.digitChar = some d := by decide
    by_cases small : n < 10
    · rw [Nat.toDigits_of_lt_base small]
      exact .digit (value n small)
    · rw [Nat.toDigits_of_base_le (by decide) (by omega)]
      have whole : n = 10 * (n / 10) + n % 10 := by omega
      have earlier := (ih (n / 10) (by omega)).append (value (n % 10) (Nat.mod_lt n (by decide)))
      rwa [← whole] at earlier

/-- No decimal digit is blank. -/
theorem not_blank_of_digit (digit : isDecimalDigit c = true) : isBlank c = false := by
  have apart : ∀ start ∈ digitZeros, ∀ n < 10, blanks.has (start + n) = false := by decide
  obtain ⟨d, value⟩ := Option.isSome_iff_exists.mp digit
  rw [digitValue?, Option.map_eq_some_iff] at value
  obtain ⟨start, found, rfl⟩ := value
  have inside := List.find?_some found
  simp only [Bool.and_eq_true, decide_eq_true_eq] at inside
  have here := apart start (List.mem_of_find?_eq_some found) (c.toNat - start) (by omega)
  rwa [Nat.add_sub_cancel' inside.1] at here

private theorem dropWhile_of_plain {p : Char → Bool} {text : List Char} (plain : ∀ c ∈ text, p c = false) :
    text.dropWhile p = text :=
  List.dropWhile_eq_self_iff.mpr fun _ => by simp [plain _ (List.getElem_mem _)]

/-- Blanks around a text without blanks are dropped from it. -/
theorem trim_of_plain (before : ∀ c ∈ front, isBlank c = true) (after : ∀ c ∈ back, isBlank c = true)
    (nonempty : text ≠ []) (plain : ∀ c ∈ text, isBlank c = false) : trim (front ++ text ++ back) = text := by
  obtain ⟨c, rest, rfl⟩ := List.exists_cons_of_ne_nil nonempty
  have start : trimStart (front ++ (c :: rest) ++ back) = c :: rest ++ back := by
    rw [trimStart, List.append_assoc, List.dropWhile_append_of_pos before, List.cons_append,
      List.dropWhile_cons_of_neg (by simp [plain c])]
  rw [trim, start, trimEnd, List.reverse_append,
    List.dropWhile_append_of_pos fun d member => after d (List.mem_reverse.mp member),
    dropWhile_of_plain fun d member => plain d (List.mem_reverse.mp member), List.reverse_reverse]

/-- A text is what is left of it without the blanks around it, between blanks. -/
theorem exists_blanks_around (text : List Char) : ∃ front back, text = front ++ trim text ++ back ∧
    (∀ c ∈ front, isBlank c = true) ∧ ∀ c ∈ back, isBlank c = true := by
  refine ⟨text.takeWhile isBlank, ((trimStart text).reverse.takeWhile isBlank).reverse, ?_, ?_, ?_⟩
  · rw [trim, trimEnd, List.append_assoc, ← List.reverse_append, List.takeWhile_append_dropWhile,
      List.reverse_reverse, trimStart, List.takeWhile_append_dropWhile]
  · exact fun c member => List.mem_takeWhile_imp member
  · exact fun c member => List.mem_takeWhile_imp (List.mem_reverse.mp member)

/-- A numeral that is not too long spells a whole number, as it is or with a sign before it. -/
inductive Signed : List Char → Int → Prop where
  | plain (spelled : Numeral text n) (short : text.length ≤ maxDigits) : Signed text n
  | plus (spelled : Numeral text n) (short : text.length ≤ maxDigits) : Signed ('+' :: text) n
  | minus (spelled : Numeral text n) (short : text.length ≤ maxDigits) : Signed ('-' :: text) (-n)

theorem Signed.ne_nil (spelled : Signed text n) : text ≠ [] := by
  cases spelled with
  | plain spelled => exact spelled.ne_nil
  | plus | minus => exact List.cons_ne_nil _ _

/-- A signed numeral holds decimal digits and signs only. -/
theorem Signed.characters (spelled : Signed text n) : ∀ c ∈ text, isDecimalDigit c = true ∨ c = '+' ∨ c = '-' := by
  intro c member
  cases spelled with
  | plain spelled => exact .inl (spelled.digits c member)
  | plus spelled | minus spelled =>
    rcases List.mem_cons.mp member with sign | digit
    · simp [sign]
    · exact .inl (spelled.digits c digit)

theorem Signed.not_blank (spelled : Signed text n) : ∀ c ∈ text, isBlank c = false := by
  intro c member
  rcases spelled.characters c member with digit | rfl | rfl
  · exact not_blank_of_digit digit
  · decide
  · decide

/-- A signed numeral is read as its number. -/
theorem Signed.integer? (spelled : Signed text n) : integer? (String.ofList text) = some n := by
  have margin : ∀ c ∈ text, isMargin c = false := by
    intro c member
    rw [isMargin, spelled.not_blank c member, Bool.false_and]
  have body : ((text.dropWhile isMargin).reverse.dropWhile isMargin).reverse = text := by
    rw [dropWhile_of_plain margin,
      dropWhile_of_plain fun c member => margin c (List.mem_reverse.mp member), List.reverse_reverse]
  rw [Text.integer?, String.toList_ofList, body]
  cases spelled with
  | plus spelled short | minus spelled short =>
    simp [spelled.natural? short]
  | plain spelled short =>
    -- The first character is a digit, so it is none of the signs that are looked for.
    have digits := spelled.digits
    split
    · exact absurd (digits '-' (by simp)) (by decide)
    · exact absurd (digits '+' (by simp)) (by decide)
    · simp [spelled.natural? short]

theorem toList_ofNat (n : Nat) : (toString (Int.ofNat n)).toList = Nat.toDigits 10 n := Nat.toList_repr

theorem toList_negSucc (n : Nat) : (toString (Int.negSucc n)).toList = '-' :: Nat.toDigits 10 (n + 1) := by
  rw [← Nat.toList_repr]
  exact String.toList_append

/-- A whole number as it is written spells itself. -/
theorem signed_toString (n : Int) (short : (Nat.toDigits 10 n.natAbs).length ≤ maxDigits) :
    Signed (toString n).toList n := by
  cases n with
  | ofNat n =>
    rw [toList_ofNat]
    exact .plain (numeral_toDigits n) short
  | negSucc n =>
    rw [toList_negSucc]
    exact .minus (numeral_toDigits (n + 1)) short

/-- No number but zero begins with a zero. -/
theorem head?_toDigits (positive : 0 < n) : (Nat.toDigits 10 n).head? ≠ some '0' := by
  induction n using Nat.strongRecOn with
  | ind n ih =>
    by_cases small : n < 10
    · rw [Nat.toDigits_of_lt_base small]
      simp only [List.head?_cons, ne_eq, Option.some.injEq, Nat.digitChar_eq_zero]
      omega
    · rw [Nat.toDigits_of_base_le (by decide) (by omega),
        List.head?_append, List.head?_eq_some_head Nat.toDigits_ne_nil, Option.some_or,
        ← List.head?_eq_some_head]
      exact ih (n / 10) (by omega) (by omega)

end NumberingPlan.Text
