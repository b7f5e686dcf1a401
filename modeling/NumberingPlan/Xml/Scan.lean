import NumberingPlan.Xml.Character
import NumberingPlan.Xml.Fault
import NumberingPlan.Text.LineEnd

/-! Small readers that take a piece of markup from the front of a text: names, white space, quoted
literals, comments, instructions and character references. Each gives the piece and the rest. -/
namespace NumberingPlan.Xml

/-- Drops white space. -/
def skipSpace (text : List Char) : List Char := text.dropWhile isSpace

/-- The rest after a mark, if the text begins with it. -/
def after? : List Char → List Char → Option (List Char)
  | [], text => some text
  | m :: mark, c :: text => if m == c then after? mark text else none
  | _ :: _, [] => none

/-- The text before the first occurrence of a mark, and the rest after it. -/
def until? (mark : List Char) (done : List Char) : List Char → Option (List Char × List Char)
  | [] => none
  | c :: rest =>
    match after? mark (c :: rest) with
    | some tail => some (done.reverse, tail)
    | none => until? mark (c :: done) rest

/-- A name without a colon. -/
def simpleName (text : List Char) : Except Fault (String × List Char) :=
  match text with
  | c :: _ =>
    if isNameStart c then
      let (name, rest) := text.span isNameChar
      .ok (String.ofList name, rest)
    else .error .badName
  | [] => .error .unfinished

/-- A name, qualified or not. -/
def qualifiedName (text : List Char) : Except Fault (String × List Char) := do
  let (first, rest) ← simpleName text
  match rest with
  | ':' :: rest => do
    let (second, rest) ← simpleName rest
    return (first ++ ":" ++ second, rest)
  | _ => return (first, rest)

/-- A literal between quotes of either kind. -/
def quotedLiteral (text : List Char) : Except Fault (List Char × List Char) :=
  match text with
  | mark :: rest =>
    if mark == '"' || mark == '\'' then
      match until? [mark] [] rest with
      | some found => .ok found
      | none => .error .unfinished
    else .error .badTag
  | [] => .error .unfinished

/-- The rest after a comment whose opening is read. Two hyphens may only end it. -/
def skipComment (text : List Char) : Except Fault (List Char) :=
  match until? ['-', '-'] [] text with
  | some (_, '>' :: rest) => .ok rest
  | _ => .error .badComment

/-- The rest after an instruction whose opening is read. Its target is no spelling of xml. -/
def skipInstruction (text : List Char) : Except Fault (List Char) := do
  let (target, rest) ← simpleName text
  if target.map Char.toLower == "xml" then throw .badInstruction
  match rest with
  | '?' :: '>' :: rest => return rest
  | c :: _ =>
    if isSpace c then
      match until? ['?', '>'] [] rest with
      | some (_, rest) => return rest
      | none => throw .unfinished
    else throw .badInstruction
  | [] => throw .unfinished

/-- The value of a digit of a character reference. -/
def referenceDigit? (base : Nat) (c : Char) : Option Nat :=
  let value :=
    if '0' ≤ c && c ≤ '9' then some (c.toNat - '0'.toNat)
    else if 'a' ≤ c && c ≤ 'f' then some (c.toNat - 'a'.toNat + 10)
    else if 'A' ≤ c && c ≤ 'F' then some (c.toNat - 'A'.toNat + 10)
    else none
  value.filter (· < base)

/-- The number that digits spell, held at the first number beyond all characters. -/
def referenceNumber (base : Nat) (digits : List Char) : Option Nat :=
  if digits.isEmpty then none
  else digits.foldl (fun n? c => do
    let n ← n?
    let d ← referenceDigit? base c
    return min (base * n + d) 0x110000) (some 0)

/-- What a reference names. -/
inductive Reference where
  | character (c : Char)
  | entity (name : String)

/-- The characters of the five entities that need no declaration. -/
def predefined? (name : String) : Option Char :=
  match name with
  | "amp" => some '&'
  | "lt" => some '<'
  | "gt" => some '>'
  | "quot" => some '"'
  | "apos" => some '\''
  | _ => none

/-- The character of a number, if it may stand in a document. -/
def legalCharacter (n : Nat) : Except Fault Char :=
  if n == 0 || 0x110000 ≤ n || (0xD800 ≤ n && n < 0xE000) then .error .badReference
  else if isLegal (Char.ofNat n) then .ok (Char.ofNat n)
  else .error .badReference

/-- A reference whose ampersand is read. -/
def reference (text : List Char) : Except Fault (Reference × List Char) :=
  match text with
  | '#' :: rest =>
    let (base, rest) := match rest with
      | 'x' :: rest => (16, rest)
      | rest => (10, rest)
    match until? [';'] [] rest with
    | none => .error .badReference
    | some (digits, rest) =>
      match referenceNumber base digits with
      | none => .error .badReference
      | some n => (legalCharacter n).map fun c => (.character c, rest)
  | text => do
    let (name, rest) ← simpleName text
    match rest with
    | ';' :: rest =>
      match predefined? name with
      | some c => return (.character c, rest)
      | none => return (.entity name, rest)
    | _ => throw .badReference

end NumberingPlan.Xml
