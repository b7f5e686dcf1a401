import NumberingPlan.Json.Basic
import NumberingPlan.Text.Numeral

/-! Reading JSON in two passes. The first cuts the text into tokens one character at a time, the
second builds the value one token at a time on a stack of unfinished lists and objects, so neither
depends on how deep the value is. -/
namespace NumberingPlan.Json

/-- A token of JSON text. A scalar is a token of its own. -/
inductive Token where
  | openList
  | closeList
  | openObject
  | closeObject
  | comma
  | colon
  | scalar (value : Json)

/-- The digits at the front of a text, and the rest. -/
def spanDigits (text : List Char) : List Char × List Char := text.span Char.isDigit

/-- The number that ASCII digits spell. -/
def asciiNatural (digits : List Char) : Nat :=
  digits.foldl (fun n c => 10 * n + (c.toNat - '0'.toNat)) 0

/-- The exponent at the end of a number; an absent one is zero. -/
def exponent? (text : List Char) : Option Int :=
  match text with
  | [] => some 0
  | mark :: rest =>
    if mark == 'e' || mark == 'E' then
      let (negative, digits) := match rest with
        | '-' :: ds => (true, ds)
        | '+' :: ds => (false, ds)
        | ds => (false, ds)
      if digits.isEmpty || !digits.all Char.isDigit then none
      else some (if negative then -(asciiNatural digits : Int) else asciiNatural digits)
    else none

/-- A number: whole if it has neither places nor exponent, else the nearest double. -/
def number? (text : List Char) : Option Json :=
  let (negative, body) := match text with
    | '-' :: rest => (true, rest)
    | rest => (false, rest)
  let (whole, rest) := spanDigits body
  if whole.isEmpty || (whole.length > 1 && whole.head? == some '0') then none
  else
    match rest with
    | [] => some (int (if negative then -(asciiNatural whole : Int) else asciiNatural whole))
    | '.' :: tail =>
      let (places, tail) := spanDigits tail
      if places.isEmpty then none
      else (exponent? tail).map fun e =>
        float (.ofDecimal negative (asciiNatural (whole ++ places)) (e - places.length))
    | tail => (exponent? tail).map fun e => float (.ofDecimal negative (asciiNatural whole) e)

/-- What a bare word means. -/
def word? (text : List Char) : Option Json :=
  if text == "null".toList then some null
  else if text == "true".toList then some (bool true)
  else if text == "false".toList then some (bool false)
  else number? text

/-- The mark that stands alone as a token. -/
def mark? (c : Char) : Option Token :=
  if c == '[' then some .openList
  else if c == ']' then some .closeList
  else if c == '\x7b' then some .openObject
  else if c == '\x7d' then some .closeObject
  else if c == ',' then some .comma
  else if c == ':' then some .colon
  else none

/-- White space between tokens. -/
def isSpace (c : Char) : Bool := c == ' ' || c == '\n' || c == '\r' || c == '\t'

/-- What an escape letter stands for. -/
def escaped? (c : Char) : Option Char :=
  if c == '"' || c == '\\' || c == '/' then some c
  else if c == 'n' then some '\n'
  else if c == 'r' then some '\r'
  else if c == 't' then some '\t'
  else if c == 'b' then some '\x08'
  else if c == 'f' then some '\x0c'
  else none

/-- Where the cut of a text into tokens stands. Characters read of a string or word come last
first; `high` is the first half of a pair of units that waits for the second. -/
inductive Cut where
  | between
  | word (read : List Char)
  | string (read : List Char) (high : Option Nat)
  | escape (read : List Char) (high : Option Nat)
  | unit (read : List Char) (high : Option Nat) (owed : Nat) (value : Nat)

/-- A unit ends: it is a character, the first half of a pair, or the second. -/
def endUnit (read : List Char) (high : Option Nat) (value : Nat) : Option Cut :=
  match high with
  | none =>
    if 0xD800 ≤ value && value < 0xDC00 then some (.string read (some value))
    else if 0xDC00 ≤ value && value < 0xE000 then none
    else some (.string (Char.ofNat value :: read) none)
  | some h =>
    if 0xDC00 ≤ value && value < 0xE000 then
      some (.string (Char.ofNat (0x10000 + (h - 0xD800) * 0x400 + (value - 0xDC00)) :: read) none)
    else none

/-- A character between tokens. -/
def startToken (c : Char) (tokens : List Token) : Cut × List Token :=
  if isSpace c then (.between, tokens)
  else if c == '"' then (.string [] none, tokens)
  else
    match mark? c with
    | some token => (.between, token :: tokens)
    | none => (.word [c], tokens)

/-- One character of text: the next state and the tokens so far, last first. -/
def cut (state : Cut) (tokens : List Token) (c : Char) : Option (Cut × List Token) :=
  match state with
  | .between => some (startToken c tokens)
  | .word read =>
    if isSpace c || c == '"' || (mark? c).isSome then
      (word? read.reverse).map fun value => startToken c (.scalar value :: tokens)
    else some (.word (c :: read), tokens)
  | .string read high =>
    if c == '\\' then some (.escape read high, tokens)
    else if high.isSome || c.toNat < 0x20 then none
    else if c == '"' then
      some (.between, .scalar (str (String.ofList read.reverse)) :: tokens)
    else some (.string (c :: read) none, tokens)
  | .escape read high =>
    if c == 'u' then some (.unit read high 4 0, tokens)
    else if high.isSome then none
    else (escaped? c).map fun e => (.string (e :: read) none, tokens)
  | .unit read high owed value =>
    match Text.hexValue? c with
    | none => none
    | some d =>
      if owed == 1 then (endUnit read high (16 * value + d)).map fun next => (next, tokens)
      else some (.unit read high (owed - 1) (16 * value + d), tokens)

/-- The tokens of a text. -/
def tokenize (state : Cut) (tokens : List Token) : List Char → Option (List Token)
  | [] =>
    match state with
    | .between => some tokens.reverse
    | .word read => (word? read.reverse).map fun value => (Token.scalar value :: tokens).reverse
    | _ => none
  | c :: rest =>
    match cut state tokens c with
    | some (next, tokens) => tokenize next tokens rest
    | none => none

/-- An unfinished list or object. Items come last first; fields are in order, and `key` waits for
its value. -/
inductive Frame where
  | list (items : List Json)
  | object (fields : List (String × Json))
  | field (fields : List (String × Json)) (key : String)

/-- What may come next. -/
inductive Expected where
  | value
  | valueOrClose
  | more
  | key
  | keyOrClose
  | colon (key : String)
  | nothing (result : Json)

/-- The stack and what may come next. -/
structure Build where
  frames : List Frame
  expected : Expected

/-- A value is complete. -/
def Build.put (frames : List Frame) (value : Json) : Option Build :=
  match frames with
  | [] => some ⟨[], .nothing value⟩
  | .list items :: rest => some ⟨.list (value :: items) :: rest, .more⟩
  | .field fields key :: rest => some ⟨.object (setField fields key value) :: rest, .more⟩
  | .object _ :: _ => none

/-- A value begins. -/
def Build.begin (frames : List Frame) : Token → Option Build
  | .scalar value => Build.put frames value
  | .openList => some ⟨.list [] :: frames, .valueOrClose⟩
  | .openObject => some ⟨.object [] :: frames, .keyOrClose⟩
  | _ => none

/-- A list or an object ends. -/
def Build.close (frames : List Frame) : Token → Option Build
  | .closeList =>
    match frames with
    | .list items :: rest => Build.put rest (arr items.reverse)
    | _ => none
  | .closeObject =>
    match frames with
    | .object fields :: rest => Build.put rest (obj fields)
    | _ => none
  | _ => none

/-- A key is read. -/
def Build.key (frames : List Frame) : Token → Option Build
  | .scalar (str s) => some ⟨frames, .colon s⟩
  | _ => none

def Build.step (b : Build) (token : Token) : Option Build :=
  match b.expected with
  | .value => Build.begin b.frames token
  | .valueOrClose => Build.close b.frames token <|> Build.begin b.frames token
  | .key => Build.key b.frames token
  | .keyOrClose => Build.close b.frames token <|> Build.key b.frames token
  | .more =>
    match token, b.frames with
    | .comma, .list _ :: _ => some ⟨b.frames, .value⟩
    | .comma, .object _ :: _ => some ⟨b.frames, .key⟩
    | _, _ => Build.close b.frames token
  | .colon key =>
    match token, b.frames with
    | .colon, .object fields :: rest => some ⟨.field fields key :: rest, .value⟩
    | _, _ => none
  | .nothing _ => none

/-- The value that tokens spell. -/
def build (b : Build) : List Token → Option Json
  | [] =>
    match b.expected with
    | .nothing value => some value
    | _ => none
  | token :: rest =>
    match b.step token with
    | some next => build next rest
    | none => none

/-- The value of a text. -/
def parse? (text : List Char) : Option Json := do
  let tokens ← tokenize .between [] text
  build ⟨[], .value⟩ tokens

end NumberingPlan.Json
