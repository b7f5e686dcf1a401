/-! Tags, and which tag a plain scalar has by its text. -/
namespace NumberingPlan.Yaml

/-- A tag. Those that a document may use have names of their own. -/
inductive Tag where
  | null
  | bool
  | int
  | float
  | binary
  | timestamp
  | omap
  | pairs
  | set
  | str
  | seq
  | map
  | merge
  | value
  | other
  deriving DecidableEq, Repr

/-- The tag of a full text. -/
def Tag.ofString (text : String) : Tag :=
  let names : List (String × Tag) :=
    [("null", .null), ("bool", .bool), ("int", .int), ("float", .float), ("binary", .binary),
      ("timestamp", .timestamp), ("omap", .omap), ("pairs", .pairs), ("set", .set), ("str", .str),
      ("seq", .seq), ("map", .map), ("merge", .merge), ("value", .value)]
  match names.find? fun (name, _) => "tag:yaml.org,2002:" ++ name == text with
  | some (_, tag) => tag
  | none => .other

/-- Digits and underscores. -/
def isNumeric (c : Char) : Bool := c.isDigit || c == '_'

/-- The text after a sign, if there is one. -/
def unsigned : List Char → List Char
  | '+' :: rest => rest
  | '-' :: rest => rest
  | text => text

/-- Goes past parts after colons, each a number below sixty, and says whether there is one. -/
def sixties (found : Bool) : List Char → Bool × List Char
  | ':' :: a :: b :: rest =>
    if '0' ≤ a && a ≤ '5' && b.isDigit then sixties true rest
    else if a.isDigit then
      match b :: rest with
      | ':' :: _ => sixties true (b :: rest)
      | rest => (true, rest)
    else (found, ':' :: a :: b :: rest)
  | [':', a] => if a.isDigit then (true, []) else (found, [':', a])
  | text => (found, text)

/-- Whether a text is an exponent with a sign, or empty. -/
def isExponent : List Char → Bool
  | [] => true
  | mark :: sign :: digits =>
    (mark == 'e' || mark == 'E') && (sign == '+' || sign == '-') && !digits.isEmpty &&
      digits.all Char.isDigit
  | _ => false

def isInteger (text : List Char) : Bool :=
  match unsigned text with
  | '0' :: 'b' :: rest => !rest.isEmpty && rest.all fun c => c == '0' || c == '1' || c == '_'
  | '0' :: 'x' :: rest =>
    !rest.isEmpty && rest.all fun c =>
      c.isDigit || ('a' ≤ c && c ≤ 'f') || ('A' ≤ c && c ≤ 'F') || c == '_'
  | '0' :: rest => rest.all fun c => ('0' ≤ c && c ≤ '7') || c == '_'
  | c :: rest =>
    if !c.isDigit then false
    else
      match rest.dropWhile isNumeric with
      | [] => true
      | rest => sixties false rest == (true, [])
  | [] => false

/-- Whether a text is a number with a point. -/
def isFloat (text : List Char) : Bool :=
  let body := unsigned text
  if [".inf", ".Inf", ".INF"].contains (String.ofList body) then true
  else if [".nan", ".NaN", ".NAN"].contains (String.ofList text) then true
  else
    match text, body with
    | '.' :: d :: rest, _ => d.isDigit && isExponent (rest.dropWhile isNumeric)
    | _, d :: rest =>
      if !d.isDigit then false
      else
        match rest.dropWhile isNumeric with
        | '.' :: rest => isExponent (rest.dropWhile isNumeric)
        | rest =>
          match sixties false rest with
          | (true, '.' :: rest) => rest.all isNumeric
          | _ => false
    | _, _ => false

/-- Digits at the front of a text, at most two, and the rest. -/
def upToTwo (text : List Char) : Nat × List Char :=
  let digits := (text.take 2).takeWhile Char.isDigit
  (digits.length, text.drop digits.length)

/-- Whether a text is a time zone, or empty. -/
def isZone (text : List Char) : Bool :=
  match text.dropWhile fun c => c == ' ' || c == '\t' with
  | [] => text.isEmpty
  | ['Z'] => true
  | sign :: rest =>
    if sign == '+' || sign == '-' then
      match upToTwo rest with
      | (0, _) => false
      | (_, []) => true
      | (_, [':', a, b]) => a.isDigit && b.isDigit
      | _ => false
    else false

/-- Whether a text is a time of day with its zone. -/
def isClock (text : List Char) : Bool :=
  match upToTwo text with
  | (0, _) => false
  | (_, ':' :: a :: b :: ':' :: c :: d :: rest) =>
    a.isDigit && b.isDigit && c.isDigit && d.isDigit &&
      (match rest with
      | '.' :: rest => isZone (rest.dropWhile Char.isDigit)
      | rest => isZone rest)
  | _ => false

/-- Whether a text is a date, or a date and a time. -/
def isTimestamp (text : List Char) : Bool :=
  let year := text.take 4
  if year.length != 4 || !year.all Char.isDigit then false
  else
    match text.drop 4 with
    | ['-', a, b, '-', c, d] => a.isDigit && b.isDigit && c.isDigit && d.isDigit
    | '-' :: rest =>
      match upToTwo rest with
      | (0, _) => false
      | (_, '-' :: rest) =>
        match upToTwo rest with
        | (0, _) => false
        | (_, mark :: rest) =>
          if mark == 'T' || mark == 't' then isClock rest
          else if mark == ' ' || mark == '\t' then
            isClock (rest.dropWhile fun c => c == ' ' || c == '\t')
          else false
        | _ => false
      | _ => false
    | _ => false

/-- The words that are true or false. -/
def truthWords : List (String × Bool) :=
  [("yes", true), ("no", false), ("true", true), ("false", false), ("on", true), ("off", false)]

/-- Whether a word of lower case letters is written small, with a capital or in capitals. -/
def isSpelling (word text : String) : Bool :=
  text == word || text == word.capitalize || text == word.map Char.toUpper

/-- The tag that the whole of a text has, if it is not a mere text. -/
def Tag.ofWhole? (text : String) : Option Tag :=
  let chars := text.toList
  if truthWords.any fun (word, _) => isSpelling word text then some .bool
  else if isFloat chars then some .float
  else if isInteger chars then some .int
  else if text == "<<" then some .merge
  else if text == "" || text == "~" || isSpelling "null" text then some .null
  else if isTimestamp chars then some .timestamp
  else if text == "=" then some .value
  else if text == "!" || text == "&" || text == "*" then some .other
  else none

/-- The tag of a plain scalar. A line end at its end does not count. -/
def Tag.ofPlain (text : String) : Tag :=
  match Tag.ofWhole? text with
  | some tag => tag
  | none =>
    let chars := text.toList
    if 1 < chars.length && chars.getLast? == some '\n' then
      (Tag.ofWhole? (String.ofList chars.dropLast)).getD .str
    else .str

end NumberingPlan.Yaml
