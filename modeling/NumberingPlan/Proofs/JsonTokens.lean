import NumberingPlan.Json.Printer
import NumberingPlan.Json.Reader
import NumberingPlan.Proofs.Numerals

/-! The tokens of written values. A character that is escaped is read as itself and a whole number as itself,
so a value is cut into its own tokens wherever it stands, and nothing in its text breaks the line. -/
namespace NumberingPlan.Json

/-- A value that its text can hold: none of its numbers is a double, and no object has a key twice. -/
inductive Plain : Json → Prop where
  | null : Plain .null
  | bool (b : Bool) : Plain (.bool b)
  | int (n : Int) : Plain (.int n)
  | str (s : String) : Plain (.str s)
  | arr (each : ∀ item ∈ items, Plain item) : Plain (.arr items)
  | obj (distinct : (fields.map Prod.fst).Nodup) (each : ∀ field ∈ fields, Plain field.2) : Plain (.obj fields)

mutual

def tokens : Json → List Token
  | null => [.scalar null]
  | bool b => [.scalar (bool b)]
  | int n => [.scalar (int n)]
  | float x => [.scalar (float x)]
  | str s => [.scalar (str s)]
  | arr [] => [.openList, .closeList]
  | arr (item :: items) => .openList :: (tokens item ++ itemTokens items)
  | obj [] => [.openObject, .closeObject]
  | obj ((key, value) :: fields) =>
    .openObject :: .scalar (str key) :: .colon :: (tokens value ++ fieldTokens fields)

/-- The tokens of the items after the first, and of the closing bracket. -/
def itemTokens : List Json → List Token
  | [] => [.closeList]
  | item :: items => .comma :: (tokens item ++ itemTokens items)

/-- The tokens of the fields after the first, and of the closing brace. -/
def fieldTokens : List (String × Json) → List Token
  | [] => [.closeObject]
  | (key, value) :: fields =>
    .comma :: .scalar (str key) :: .colon :: (tokens value ++ fieldTokens fields)

end

/-- Whether a word ends before a character. -/
def endsWord (c : Char) : Bool := isSpace c || c == '"' || (mark? c).isSome

/-- A text that no word before it goes on into. -/
def Apart (text : List Char) : Prop := ∀ c ∈ text.head?, endsWord c = true

/-- A text without control characters, which is cut into these tokens wherever it stands between others. -/
structure Reads (text : List Char) (found : List Token) : Prop where
  unbroken : ∀ c ∈ text, 0x20 ≤ c.toNat
  tokenized : ∀ done rest, Apart rest →
    tokenize .between done (text ++ rest) = tokenize .between (found.reverse ++ done) rest

variable {text text' : List Char} {found found' : List Token} {token : Token} {value : Json} {c : Char}
  {items : List Json} {fields : List (String × Json)}

theorem Reads.nil : Reads [] [] := ⟨nofun, fun _ _ _ => rfl⟩

theorem Reads.append (first : Reads text found) (apart : ∀ rest, Apart (text' ++ rest))
    (second : Reads text' found') : Reads (text ++ text') (found ++ found') where
  unbroken := List.forall_mem_append.mpr ⟨first.unbroken, second.unbroken⟩
  tokenized done rest after := by
    rw [List.append_assoc, first.tokenized done _ (apart rest), second.tokenized _ rest after,
      List.reverse_append, List.append_assoc]

/-- A mark is no space and no quote, and no control character. -/
theorem startToken_of_mark (is : mark? c = some token) :
    (∀ done, startToken c done = (.between, token :: done)) ∧ 0x20 ≤ c.toNat := by
  by_cases among : c ∈ ['[', ']', '\x7b', '\x7d', ',', ':']
  · simp only [List.mem_cons, List.not_mem_nil, or_false] at among
    rcases among with rfl | rfl | rfl | rfl | rfl | rfl <;> cases is <;> exact ⟨fun _ => rfl, by decide⟩
  · simp only [List.mem_cons, List.not_mem_nil, or_false, not_or] at among
    simp [mark?, among] at is

/-- A mark is a token of its own. -/
theorem Reads.mark (is : mark? c = some token) (reads : Reads text found) : Reads (c :: text) (token :: found) := by
  obtain ⟨alone, visible⟩ := startToken_of_mark is
  refine ⟨List.forall_mem_cons.mpr ⟨visible, reads.unbroken⟩, fun done rest after => ?_⟩
  have first : tokenize .between done (c :: (text ++ rest)) = tokenize .between (token :: done) (text ++ rest) := by
    rw [tokenize, cut, alone]
  rw [List.cons_append, first, reads.tokenized _ rest after, List.reverse_cons, List.append_assoc,
    List.singleton_append]

/-! ### Words -/

private theorem tokenize_word (read : List Char) (done : List Token) (rest : List Char)
    (inside : ∀ c ∈ text, endsWord c = false) :
    tokenize (.word read) done (text ++ rest) = tokenize (.word (text.reverse ++ read)) done rest := by
  induction text generalizing read with
  | nil => rfl
  | cons c text ih =>
    have goesOn : cut (.word read) done c = some (.word (c :: read), done) := by
      have here := inside c List.mem_cons_self
      rw [endsWord] at here
      simp [cut, here]
    rw [List.cons_append, tokenize, goesOn, List.reverse_cons, List.append_assoc]
    exact ih (c :: read) fun d member => inside d (List.mem_cons_of_mem _ member)

/-- A word is one token: what it means. -/
theorem word_reads (means : word? text = some value) (nonempty : text ≠ [])
    (inside : ∀ c ∈ text, endsWord c = false) (unbroken : ∀ c ∈ text, 0x20 ≤ c.toNat) :
    Reads text [.scalar value] := by
  refine ⟨unbroken, fun done rest apart => ?_⟩
  obtain ⟨c, text, rfl⟩ := List.exists_cons_of_ne_nil nonempty
  have opens : startToken c done = (.word [c], done) := by
    have here := inside c List.mem_cons_self
    simp only [endsWord, Bool.or_eq_false_iff, Option.isSome_eq_false_iff, Option.isNone_iff_eq_none] at here
    obtain ⟨⟨space, quote⟩, mark⟩ := here
    simp [startToken, space, quote, mark]
  have whole : tokenize .between done (c :: text ++ rest) = tokenize (.word (c :: text).reverse) done rest := by
    rw [List.cons_append, tokenize, cut, opens, List.reverse_cons]
    exact tokenize_word [c] done rest fun d member => inside d (List.mem_cons_of_mem _ member)
  rw [whole]
  cases rest with
  | nil => simp [tokenize, means]
  | cons d rest =>
    -- The character that ends the word begins the next token as if it stood between tokens.
    have ends : endsWord d = true := apart d rfl
    rw [endsWord] at ends
    simp only [tokenize, cut, if_pos ends, List.reverse_reverse, means, Option.map_some]
    rfl

/-- A word that is written out, whose characters are looked through one by one. -/
theorem keyword_reads (means : word? text = some value) (nonempty : text ≠ [])
    (each : text.all (fun c => !endsWord c && decide (0x20 ≤ c.toNat)) = true) : Reads text [.scalar value] := by
  have visible := List.all_eq_true.mp each
  simp only [Bool.and_eq_true, Bool.not_eq_true', decide_eq_true_eq] at visible
  exact word_reads means nonempty (fun c member => (visible c member).1) fun c member => (visible c member).2

private theorem spanDigits_toDigits (n : Nat) : spanDigits (Nat.toDigits 10 n) = (Nat.toDigits 10 n, []) := by
  have digits : ∀ d ∈ Nat.toDigits 10 n, d.isDigit = true :=
    fun d => Nat.isDigit_of_mem_toDigits (by decide) (by decide)
  rw [spanDigits, List.span_eq_takeWhile_dropWhile, List.takeWhile_eq_self_iff.mpr digits,
    List.dropWhile_eq_nil_iff.mpr digits]

private theorem asciiNatural_toDigits (n : Nat) : asciiNatural (Nat.toDigits 10 n) = n := Nat.ofDigitChars_ten_toDigits

/-- A number has digits, and the first of several is no zero. -/
theorem toDigits_allowed (n : Nat) : ((Nat.toDigits 10 n).isEmpty ||
    ((Nat.toDigits 10 n).length > 1 && (Nat.toDigits 10 n).head? == some '0')) = false := by
  rw [List.isEmpty_eq_false_iff.mpr Nat.toDigits_ne_nil, Bool.false_or]
  by_cases zero : n = 0
  · subst zero
    rfl
  · rw [beq_false_of_ne (Text.head?_toDigits (Nat.pos_of_ne_zero zero)), Bool.and_false]

private theorem number?_toDigits (n : Nat) : number? (Nat.toDigits 10 n) = some (int n) := by
  unfold number?
  split
  rename_i signed
  split at signed
  · rename_i same
    have digit : '-'.isDigit = true :=
      Nat.isDigit_of_mem_toDigits (by decide) (by decide) (n := n) (b := 10) (by simp [same])
    exact absurd digit (by decide)
  · cases signed
    simp only [spanDigits_toDigits, toDigits_allowed, asciiNatural_toDigits]
    rfl

private theorem number?_negative (n : Nat) : number? ('-' :: Nat.toDigits 10 n) = some (int (-n)) := by
  simp only [number?, spanDigits_toDigits, toDigits_allowed, asciiNatural_toDigits]
  rfl

private theorem number?_toString (n : Int) : number? (toString n).toList = some (int n) := by
  cases n with
  | ofNat n =>
    rw [Text.toList_ofNat]
    exact number?_toDigits n
  | negSucc n =>
    rw [Text.toList_negSucc]
    exact number?_negative (n + 1)

/-- A digit or a sign. -/
def spellsNumber (c : Char) : Bool := c.isDigit || c == '-'

private theorem spellsNumber_toString (n : Int) : ∀ c ∈ (toString n).toList, spellsNumber c = true := by
  have digits (n : Nat) : ∀ c ∈ Nat.toDigits 10 n, spellsNumber c = true := by
    intro c member
    rw [spellsNumber, Nat.isDigit_of_mem_toDigits (by decide) (by decide) member, Bool.true_or]
  cases n with
  | ofNat n =>
    rw [Text.toList_ofNat]
    exact digits n
  | negSucc n =>
    rw [Text.toList_negSucc]
    exact List.forall_mem_cons.mpr ⟨rfl, digits (n + 1)⟩

private theorem bounds_of_spellsNumber (spells : spellsNumber c = true) :
    c.toNat = 45 ∨ 48 ≤ c.toNat ∧ c.toNat ≤ 57 := by
  rw [spellsNumber, Bool.or_eq_true] at spells
  rcases spells with digit | sign
  · right
    simpa [Char.isDigit, UInt32.le_iff_toNat_le] using digit
  · left
    rw [eq_of_beq sign]
    rfl

/-- The characters that end a word. -/
def wordEnds : List Char := [' ', '\n', '\r', '\t', '"', '[', ']', '\x7b', '\x7d', ',', ':']

private theorem endsWord_of_spellsNumber (spells : spellsNumber c = true) : endsWord c = false := by
  have apart : wordEnds.all (!spellsNumber ·) = true := by decide
  have other : ∀ d ∈ wordEnds, c ≠ d := by
    rintro d ends rfl
    simpa [spells] using List.all_eq_true.mp apart c ends
  simp only [wordEnds, List.forall_mem_cons] at other
  simp [endsWord, isSpace, mark?, other]

/-- A whole number is read as itself. -/
theorem int_reads (n : Int) : Reads (toString n).toList [.scalar (int n)] := by
  have spelled := spellsNumber_toString n
  have number := number?_toString n
  have nonempty : (toString n).toList ≠ [] := by
    intro empty
    rw [empty] at number
    cases number
  have noWord (word : List Char) (letters : word.all spellsNumber = false) :
      ((toString n).toList == word) = false := by
    rw [beq_eq_false_iff_ne]
    rintro rfl
    cases letters.symm.trans (List.all_eq_true.mpr spelled)
  have means : word? (toString n).toList = some (int n) := by
    rw [word?, noWord _ (by decide), noWord _ (by decide), noWord _ (by decide)]
    exact number
  refine word_reads means nonempty (fun c member => endsWord_of_spellsNumber (spelled c member)) fun c member => ?_
  have bounds := bounds_of_spellsNumber (spelled c member)
  omega

/-! ### Strings -/

private theorem hexValue?_hexDigit : ∀ d < 16, Text.hexValue? (Text.hexDigit d) = some d := by decide

/-- A character that is spelled by its unit is read as itself. -/
theorem unitEscape_read (read : List Char) (done : List Token) (rest : List Char) (whole : c.toNat < 0xD800) :
    tokenize (.string read none) done (unitEscape c.toNat ++ rest) = tokenize (.string (c :: read) none) done rest := by
  have digits : Text.hexDigits 4 c.toNat = [Text.hexDigit (c.toNat / 16 / 16 / 16 % 16),
    Text.hexDigit (c.toNat / 16 / 16 % 16), Text.hexDigit (c.toNat / 16 % 16), Text.hexDigit (c.toNat % 16)] := rfl
  have values (n : Nat) : Text.hexValue? (Text.hexDigit (n % 16)) = some (n % 16) :=
    hexValue?_hexDigit _ (Nat.mod_lt n (by decide))
  have value : 16 * (16 * (16 * (c.toNat / 16 / 16 / 16 % 16) + c.toNat / 16 / 16 % 16) +
      c.toNat / 16 % 16) + c.toNat % 16 = c.toNat := by omega
  have ended : endUnit read none c.toNat = some (.string (c :: read) none) := by
    have first : ¬0xD800 ≤ c.toNat := by omega
    have second : ¬0xDC00 ≤ c.toNat := by omega
    simp [endUnit, first, second]
  rw [unitEscape, digits]
  simp [tokenize, cut, values, value, ended]

private theorem hexDigit_visible : ∀ d < 16, 0x20 ≤ (Text.hexDigit d).toNat := by decide

private theorem hexDigits_visible (width n : Nat) : ∀ c ∈ Text.hexDigits width n, 0x20 ≤ c.toNat := by
  induction width generalizing n with
  | zero => exact nofun
  | succ width ih =>
    exact List.forall_mem_append.mpr ⟨ih (n / 16),
      List.forall_mem_singleton.mpr (hexDigit_visible _ (Nat.mod_lt n (by decide)))⟩

/-- What a character of a string is written as: a letter that stands for it, its unit, or itself. -/
inductive WrittenAs (c : Char) : List Char → Prop where
  | letter (letter : Char) (stands : escaped? letter = some c) (visible : 0x20 ≤ letter.toNat) :
    WrittenAs c ['\\', letter]
  | unit (control : c.toNat < 0x20) : WrittenAs c (unitEscape c.toNat)
  | itself (quote : c ≠ '"') (slash : c ≠ '\\') (visible : 0x20 ≤ c.toNat) : WrittenAs c [c]

private theorem escapeChar_writtenAs (c : Char) : WrittenAs c (escapeChar .unicode c) := by
  by_cases short : c ∈ ['"', '\\', '\n', '\r', '\t', '\x08', '\x0c']
  · simp only [List.mem_cons, List.not_mem_nil, or_false] at short
    rcases short with rfl | rfl | rfl | rfl | rfl | rfl | rfl <;> exact .letter _ rfl (by decide)
  · simp only [List.mem_cons, List.not_mem_nil, or_false, not_or] at short
    obtain ⟨quote, slash, newline, ret, tab, back, feed⟩ := short
    have long : escapeChar .unicode c = if c.toNat < 0x20 then unitEscape c.toNat else [c] := by
      simp [escapeChar, quote, slash, newline, ret, tab, back, feed]
    rw [long]
    split
    · exact .unit ‹_›
    · exact .itself quote slash (Nat.le_of_not_lt ‹_›)

/-- However a character is written, it is read as itself. -/
theorem WrittenAs.read (written : WrittenAs c text) (read : List Char) (done : List Token) (rest : List Char) :
    tokenize (.string read none) done (text ++ rest) = tokenize (.string (c :: read) none) done rest := by
  cases written with
  | letter letter stands _ =>
    have other : letter ≠ 'u' := by
      rintro rfl
      cases stands
    simp [tokenize, cut, stands, other]
  | unit control => exact unitEscape_read read done rest (by omega)
  | itself quote slash visible => simp [tokenize, cut, quote, slash, Nat.not_lt.mpr visible]

theorem WrittenAs.unbroken (written : WrittenAs c text) : ∀ d ∈ text, 0x20 ≤ d.toNat := by
  cases written with
  | letter letter _ visible => exact List.forall_mem_cons.mpr ⟨by decide, List.forall_mem_singleton.mpr visible⟩
  | unit _ => exact List.forall_mem_cons.mpr ⟨by decide, List.forall_mem_cons.mpr ⟨by decide, hexDigits_visible _ _⟩⟩
  | itself _ _ visible => exact List.forall_mem_singleton.mpr visible

/-- A string is read as itself, whatever follows it. -/
theorem stringText_reads (s : String) : Reads (stringText .unicode s) [.scalar (str s)] := by
  have inside (cs read : List Char) (done : List Token) (rest : List Char) :
      tokenize (.string read none) done (cs.flatMap (escapeChar .unicode) ++ '"' :: rest) =
        tokenize .between (.scalar (str (String.ofList (read.reverse ++ cs))) :: done) rest := by
    induction cs generalizing read with
    | nil =>
      rw [List.append_nil]
      rfl
    | cons c cs ih =>
      rw [List.flatMap_cons, List.append_assoc, (escapeChar_writtenAs c).read, ih, List.reverse_cons, List.append_assoc,
        List.singleton_append]
  constructor
  · refine List.forall_mem_cons.mpr ⟨by decide, List.forall_mem_append.mpr ⟨fun d member => ?_, by simp⟩⟩
    obtain ⟨c, -, written⟩ := List.mem_flatMap.mp member
    exact (escapeChar_writtenAs c).unbroken d written
  · intro done rest _
    have opened : tokenize .between done (stringText .unicode s ++ rest) =
        tokenize (.string [] none) done (s.toList.flatMap (escapeChar .unicode) ++ '"' :: rest) := by
      rw [stringText, List.cons_append, List.append_assoc]
      rfl
    rw [opened, inside, List.reverse_nil, List.nil_append, String.ofList_toList]
    rfl

/-! ### Lists, objects and all values -/

private theorem itemChars_apart (items : List Json) (rest : List Char) : Apart (itemChars .unicode items ++ rest) := by
  cases items <;> rintro _ ⟨⟩ <;> rfl

private theorem fieldChars_apart (fields : List (String × Json)) (rest : List Char) :
    Apart (fieldChars .unicode fields ++ rest) := by
  cases fields <;> rintro _ ⟨⟩ <;> rfl

private theorem itemChars_reads (each : ∀ item ∈ items, Reads (chars .unicode item) (tokens item)) :
    Reads (itemChars .unicode items) (itemTokens items) := by
  induction items with
  | nil => exact .mark rfl .nil
  | cons item items ih =>
    exact .mark rfl ((each item List.mem_cons_self).append (itemChars_apart items)
      (ih fun other member => each other (List.mem_cons_of_mem _ member)))

/-- A field is a string, a colon and a value. -/
theorem field_reads (key : String) (reads : Reads text found) :
    Reads (stringText .unicode key ++ ':' :: text) (.scalar (str key) :: .colon :: found) := by
  refine (stringText_reads key).append (fun rest => ?_) (.mark rfl reads)
  rintro _ ⟨⟩
  rfl

private theorem fieldChars_reads (each : ∀ field ∈ fields, Reads (chars .unicode field.2) (tokens field.2)) :
    Reads (fieldChars .unicode fields) (fieldTokens fields) := by
  induction fields with
  | nil => exact .mark rfl .nil
  | cons field fields ih =>
    exact .mark rfl (field_reads field.1
      ((each field List.mem_cons_self).append (fieldChars_apart fields)
        (ih fun other member => each other (List.mem_cons_of_mem _ member))))

/-- What is written of a value is cut into its tokens. -/
theorem chars_reads (plain : Plain value) : Reads (chars .unicode value) (tokens value) := by
  induction plain with
  | null => exact keyword_reads rfl (by decide) (by decide)
  | bool b => cases b <;> exact keyword_reads rfl (by decide) (by decide)
  | int n => exact int_reads n
  | str s => exact stringText_reads s
  | @arr items _ ih =>
    cases items with
    | nil => exact .mark rfl (.mark rfl .nil)
    | cons item items =>
      exact .mark rfl ((ih item List.mem_cons_self).append (itemChars_apart items)
        (itemChars_reads fun other member => ih other (List.mem_cons_of_mem _ member)))
  | @obj fields _ _ ih =>
    cases fields with
    | nil => exact .mark rfl (.mark rfl .nil)
    | cons field fields =>
      exact .mark rfl (field_reads field.1
        ((ih field List.mem_cons_self).append (fieldChars_apart fields)
          (fieldChars_reads fun other member => ih other (List.mem_cons_of_mem _ member))))

theorem tokenize_chars (plain : Plain value) : tokenize .between [] (chars .unicode value) = some (tokens value) := by
  have whole := (chars_reads plain).tokenized [] [] nofun
  rw [List.append_nil, List.append_nil] at whole
  rw [whole, tokenize, List.reverse_reverse]

end NumberingPlan.Json
