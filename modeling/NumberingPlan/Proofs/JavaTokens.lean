import NumberingPlan.Proofs.Numerals

/-! How Java tells the tokens of a source text apart. Unicode escapes are translated before anything
else is read, and a character at a time is enough for both passes. Only what an accessor may contain
is read: operators, block comments, text blocks and other kinds of literals are refused. -/
namespace NumberingPlan.Java

/-- A pass over characters. A step gives out what it completes, or refuses the character; the end
gives out what is still open, or refuses it. -/
structure Pass (State Out : Type) where
  step : State → Char → Option (List Out × State)
  finish : State → Option (List Out)

namespace Pass
variable {State Out : Type}

/-- What the characters give out, and the state after them. -/
def run (pass : Pass State Out) : State → List Char → Option (List Out × State)
  | state, [] => some ([], state)
  | state, c :: cs => do
    let (out, next) ← pass.step state c
    let (more, last) ← pass.run next cs
    some (out ++ more, last)

/-- What a whole text gives out. -/
def read (pass : Pass State Out) (start : State) (cs : List Char) : Option (List Out) := do
  let (out, last) ← pass.run start cs
  let more ← pass.finish last
  some (out ++ more)

theorem run_append {pass : Pass State Out} (ran : pass.run start first = some (out, middle))
    (onward : pass.run middle second = some (more, last)) :
    pass.run start (first ++ second) = some (out ++ more, last) := by
  induction first generalizing start out with
  | nil =>
    cases ran
    exact onward
  | cons c cs ih =>
    simp only [run, Option.bind_eq_bind, Option.bind_eq_some_iff, Prod.exists] at ran
    obtain ⟨here, next, stepped, rest, _, went, same⟩ := ran
    cases same
    simp [run, stepped, ih went]

theorem read_of_run {pass : Pass State Out} (ran : pass.run start cs = some (out, last))
    (done : pass.finish last = some []) : pass.read start cs = some out := by
  simp [read, ran, done]

end Pass

/-- Where the translation of Unicode escapes stands. -/
inductive Escape where
  | plain
  | slash
  | marker
  | digits (left value : Nat)

/-- The value of a hexadecimal digit. -/
def hexValue? (c : Char) : Option Nat :=
  if c.isDigit then some (c.toNat - '0'.toNat)
  else if 'a' ≤ c ∧ c ≤ 'f' then some (c.toNat - 'a'.toNat + 10)
  else if 'A' ≤ c ∧ c ≤ 'F' then some (c.toNat - 'A'.toNat + 10)
  else none

/-- The translation of Unicode escapes. A backslash begins one if a `u` follows and no backslash
makes a pair with it; four hexadecimal digits then denote a character. A half of a character that
takes two is refused. -/
def escapes : Pass Escape Char where
  step
    | .plain, c => some (if c = '\\' then ([], .slash) else ([c], .plain))
    | .slash, c => some (if c = 'u' then ([], .marker) else (['\\', c], .plain))
    | .marker, c =>
      if c = 'u' then some ([], .marker) else (hexValue? c).map fun value => ([], .digits 3 value)
    | .digits left value, c => do
      let value := 16 * value + (← hexValue? c)
      match left with
      | left + 2 => some ([], .digits (left + 1) value)
      | _ => if value.isValidChar then some ([Char.ofNat value], .plain) else none
  finish
    | .plain => some []
    | .slash => some ['\\']
    | .marker | .digits .. => none

/-- A token, or the text of a comment. -/
inductive Token where
  | word (name : String)
  | number (value : Nat)
  | text (value : String)
  | symbol (c : Char)
  | comment (text : String)
  deriving DecidableEq, Repr

def Token.isComment : Token → Bool
  | comment _ => true
  | word _ | number _ | text _ | symbol _ => false

/-- What a token denotes if it is a string literal. -/
def Token.text? : Token → Option String
  | text value => some value
  | word _ | number _ | symbol _ | comment _ => none

/-- Where the reading of tokens stands, with the characters that are read of an open one. A text that
is empty so far and closed would begin a text block if another quote followed. -/
inductive Lexing where
  | idle
  | word (sofar : List Char)
  | number (sofar : List Char)
  | text (sofar : List Char)
  | escape (sofar : List Char)
  | closed
  | slash
  | comment (sofar : List Char)
  deriving DecidableEq, Repr

/-- Whether a character may begin a word. -/
def beginsWord (c : Char) : Bool := c.isAlpha || c == '_' || c == '$'

def endsLine (c : Char) : Bool := c == '\n' || c == '\r'

/-- Reads a character where no token is open. -/
def openToken (c : Char) : Option (List Token × Lexing) :=
  if c == ' ' || c == '\t' || c == '\x0c' || endsLine c then some ([], .idle)
  else if beginsWord c then some ([], .word [c])
  else if c.isDigit then some ([], .number [c])
  else if c == '"' then some ([], .text [])
  else if c == '/' then some ([], .slash)
  else if ['(', ')', '\x7b', '\x7d', '<', '>', ';', ',', '.', '=', '-'].contains c then some ([.symbol c], .idle)
  else none

/-- The number of a decimal literal; a longer one does not begin with zero. -/
def decimal? : List Char → Option Nat
  | ['0'] => some 0
  | '0' :: _ => none
  | digits => some (Nat.ofDigitChars 10 digits 0)

/-- What a character denotes after a backslash in a text. -/
def escaped? : Char → Option Char
  | 'b' => some '\x08'
  | 't' => some '\t'
  | 'n' => some '\n'
  | 'f' => some '\x0c'
  | 'r' => some '\r'
  | 's' => some ' '
  | '"' => some '"'
  | '\'' => some '\''
  | '\\' => some '\\'
  | _ => none

/-- Gives out a token that ends before a character, and reads the character. -/
def endToken (token : Token) (c : Char) : Option (List Token × Lexing) :=
  (openToken c).map fun (out, next) => (token :: out, next)

def lexer : Pass Lexing Token where
  step
    | .idle, c => openToken c
    | .word sofar, c =>
      if beginsWord c || c.isDigit then some ([], .word (sofar ++ [c]))
      else endToken (.word (String.ofList sofar)) c
    | .number sofar, c =>
      if c.isDigit then some ([], .number (sofar ++ [c]))
      else if beginsWord c || c == '.' then none
      else do endToken (.number (← decimal? sofar)) c
    | .text sofar, c =>
      if c == '"' then
        some (if sofar = [] then ([], .closed) else ([.text (String.ofList sofar)], .idle))
      else if c == '\\' then some ([], .escape sofar)
      else if endsLine c then none
      else some ([], .text (sofar ++ [c]))
    | .escape sofar, c => (escaped? c).map fun denoted => ([], .text (sofar ++ [denoted]))
    | .closed, c => if c == '"' then none else endToken (.text "") c
    | .slash, c => if c == '/' then some ([], .comment []) else none
    | .comment sofar, c =>
      some (if endsLine c then ([.comment (String.ofList sofar)], .idle)
        else ([], .comment (sofar ++ [c])))
  finish
    | .idle => some []
    | .word sofar => some [.word (String.ofList sofar)]
    | .number sofar => (decimal? sofar).map fun value => [.number value]
    | .closed => some [.text ""]
    | .comment sofar => some [.comment (String.ofList sofar)]
    | .text _ | .escape _ | .slash => none

/-- The tokens of a source text. -/
def tokens? (source : String) : Option (List Token) := do
  let translated ← escapes.read .plain source.toList
  lexer.read .idle translated

/-- A piece of source text that the translation of Unicode escapes leaves as it is, and that has these
tokens when none is open before it; none is open after it. -/
structure Reads (cs : List Char) (tokens : List Token) : Prop where
  translated : escapes.run .plain cs = some (cs, .plain)
  lexed : lexer.run .idle cs = some (tokens, .idle)

theorem Reads.append (first : Reads cs tokens) (second : Reads cs' tokens') :
    Reads (cs ++ cs') (tokens ++ tokens') :=
  ⟨Pass.run_append first.translated second.translated, Pass.run_append first.lexed second.lexed⟩

/-- A text without backslashes has no Unicode escapes. -/
theorem translated_of_plain (plain : '\\' ∉ cs) : escapes.run .plain cs = some (cs, .plain) := by
  induction cs with
  | nil => rfl
  | cons c cs ih =>
    simp only [List.mem_cons, not_or] at plain
    have step : escapes.step .plain c = some ([c], .plain) := by
      simp [escapes, Ne.symm plain.1]
    simp [Pass.run, step, ih plain.2]

/-- A text without backslashes is read if its tokens are. -/
theorem Reads.of_plain (checked : '\\' ∉ cs ∧ lexer.run .idle cs = some (tokens, .idle)) :
    Reads (String.ofList cs).toList tokens := by
  rw [String.toList_ofList]
  exact ⟨translated_of_plain checked.1, checked.2⟩

theorem Reads.flatMap {α : Type} {text : α → List Char} {tokens : α → List Token} {items : List α}
    (reads : ∀ a ∈ items, Reads (text a) (tokens a)) :
    Reads (items.flatMap text) (items.flatMap tokens) := by
  induction items with
  | nil => exact ⟨rfl, rfl⟩
  | cons a items ih =>
    rw [List.flatMap_cons, List.flatMap_cons]
    exact (reads a List.mem_cons_self).append (ih fun a here => reads a (List.mem_cons_of_mem _ here))

/-- No Unicode escape arises in a text that reads as tokens. -/
theorem Reads.escapes_read (reads : Reads cs tokens) : escapes.read .plain cs = some cs :=
  Pass.read_of_run reads.translated rfl

theorem Reads.tokens?_eq (reads : Reads source.toList tokens) : tokens? source = some tokens := by
  simp [tokens?, reads.escapes_read, Pass.read_of_run reads.lexed rfl]

private theorem openToken_digit (digit : c.isDigit) : openToken c = some ([], .number [c]) := by
  have bounds : 48 ≤ c.toNat ∧ c.toNat ≤ 57 := by
    simpa [Char.isDigit, UInt32.le_iff_toNat_le] using digit
  have letter : c.isAlpha = false := by
    delta Char.isAlpha Char.isUpper Char.isLower
    simp [UInt32.le_iff_toNat_le]
    omega
  have other (d : Char) (outside : d.toNat < 48 ∨ 57 < d.toNat) : c ≠ d := by
    rintro rfl
    omega
  simp [openToken, endsLine, beginsWord, letter, digit, other ' ' (by decide), other '\t' (by decide),
    other '\x0c' (by decide), other '\n' (by decide), other '\r' (by decide), other '_' (by decide),
    other '$' (by decide)]

private theorem run_digits (sofar : List Char) (digits : ∀ c ∈ cs, c.isDigit) :
    lexer.run (.number sofar) cs = some ([], .number (sofar ++ cs)) := by
  induction cs generalizing sofar with
  | nil => simp [Pass.run]
  | cons c cs ih =>
    have rest := ih (sofar ++ [c]) fun c here => digits c (List.mem_cons_of_mem _ here)
    have step : lexer.step (.number sofar) c = some ([], .number (sofar ++ [c])) := by
      simp [lexer, digits c List.mem_cons_self]
    simp [Pass.run, step, rest]

/-- The decimal digits of a number are a literal of it. -/
theorem decimal?_toDigits (n : Nat) : decimal? (Nat.toDigits 10 n) = some n := by
  by_cases zero : n = 0
  · subst zero
    rfl
  · have head := Text.head?_toDigits (Nat.pos_of_ne_zero zero)
    have value : Nat.ofDigitChars 10 (Nat.toDigits 10 n) 0 = n := Nat.ofDigitChars_ten_toDigits
    generalize Nat.toDigits 10 n = digits at head value
    unfold decimal?
    split
    · simp at head
    · simp at head
    · rw [value]

/-- A character that ends a number and leaves no token open. -/
structure EndsNumber (c : Char) (out : List Token) : Prop where
  noDigit : c.isDigit = false
  noLetter : beginsWord c = false
  noPoint : c ≠ '.'
  opened : openToken c = some (out, .idle)

private theorem run_number (n : Nat) (ends : EndsNumber c out) :
    lexer.run .idle (Nat.toDigits 10 n ++ [c]) = some (.number n :: out, .idle) := by
  have digits : ∀ d ∈ Nat.toDigits 10 n, d.isDigit :=
    fun d => Nat.isDigit_of_mem_toDigits (by decide) (by decide)
  have value := decimal?_toDigits n
  have last : lexer.run (.number (Nat.toDigits 10 n)) [c] = some (.number n :: out, .idle) := by
    simp [Pass.run, lexer, ends.noDigit, ends.noLetter, ends.noPoint, value, endToken, ends.opened]
  obtain ⟨d, ds, spelled⟩ := List.exists_cons_of_ne_nil (Nat.toDigits_ne_nil (n := n) (b := 10))
  rw [spelled] at digits last ⊢
  have first : lexer.step .idle d = some ([], .number [d]) :=
    openToken_digit (digits d List.mem_cons_self)
  have more := run_digits [d] fun c here => digits c (List.mem_cons_of_mem _ here)
  have whole : lexer.run .idle (d :: ds) = some ([], .number (d :: ds)) := by
    simp [Pass.run, first, more]
  exact Pass.run_append whole last

/-- A decimal number and the character that ends it. -/
theorem number_reads (n : Nat) (ends : EndsNumber c out) (plain : c ≠ '\\') :
    Reads (n.repr.toList ++ [c]) (.number n :: out) := by
  rw [Nat.toList_repr]
  refine ⟨translated_of_plain fun here => ?_, run_number n ends⟩
  rcases List.mem_append.mp here with among | last
  · have digit := Nat.isDigit_of_mem_toDigits (by decide) (by decide) among
    exact absurd digit (by decide)
  · exact plain (List.mem_singleton.mp last).symm

private theorem run_comment (sofar : List Char) (inside : ∀ c ∈ cs, endsLine c = false) :
    lexer.run (.comment sofar) cs = some ([], .comment (sofar ++ cs)) := by
  induction cs generalizing sofar with
  | nil => simp [Pass.run]
  | cons c cs ih =>
    have rest := ih (sofar ++ [c]) fun c here => inside c (List.mem_cons_of_mem _ here)
    have step : lexer.step (.comment sofar) c = some ([], .comment (sofar ++ [c])) := by
      simp [lexer, inside c List.mem_cons_self]
    simp [Pass.run, step, rest]

/-- A comment lasts to the end of its line. -/
theorem comment_reads (inside : ∀ c ∈ cs, endsLine c = false) (plain : '\\' ∉ cs) :
    Reads ('/' :: '/' :: cs ++ ['\n']) [.comment (String.ofList cs)] := by
  constructor
  · apply translated_of_plain
    simp [plain]
  · have opened : lexer.run .idle ['/', '/'] = some ([], .comment []) := rfl
    have closed : lexer.run (.comment cs) ['\n'] = some ([.comment (String.ofList cs)], .idle) := rfl
    exact Pass.run_append (Pass.run_append opened (run_comment [] inside)) closed

end NumberingPlan.Java
