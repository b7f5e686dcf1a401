import NumberingPlan.Decimal.Binary64
import NumberingPlan.Text.Numeral
import NumberingPlan.Time.Calendar
import NumberingPlan.Yaml.Fault
import NumberingPlan.Yaml.Resolution

/-! Scalars that hold more than text: truth values, numbers, dates and bytes. A tag may be given to
any text, so each reader says what is wrong with a text that does not fit. -/
namespace NumberingPlan.Yaml

/-- A text without underscores. -/
def dropUnderscores (text : String) : List Char := text.toList.filter (· != '_')

/-- The truth value of a word in any case. -/
def booleanOf (text : String) : Except Fault Bool :=
  let word := text.map Char.toLower
  match truthWords.lookup word with
  | some b => .ok b
  | none => .error (.notBoolean word)

/-- A text without the margins that numbers may have. -/
def withoutMargins (text : List Char) : List Char :=
  ((text.dropWhile Text.isMargin).reverse.dropWhile Text.isMargin).reverse

/-- The value of a digit in a base up to sixteen; decimal digits of any script count. -/
def baseDigit? (base : Nat) (c : Char) : Option Nat :=
  ((Text.digitValue? c).or (Text.hexValue? c)).filter (· < base)

/-- The number that a text spells in a base, after a sign and the mark of the base. -/
def basedInteger (base : Nat) (text : List Char) : Except Fault Int :=
  let body := withoutMargins text
  let negative := body.head? == some '-'
  let digits := unsigned body
  let digits := match base, digits with
    | 2, '0' :: 'b' :: rest | 2, '0' :: 'B' :: rest => rest
    | 8, '0' :: 'o' :: rest | 8, '0' :: 'O' :: rest => rest
    | 16, '0' :: 'x' :: rest | 16, '0' :: 'X' :: rest => rest
    | _, digits => digits
  match digits.mapM (baseDigit? base) with
  | some (d :: ds) =>
    if base == 10 && Text.maxDigits < ds.length + 1 then .error (.tooManyDigits (ds.length + 1))
    else
      let n := (d :: ds).foldl (fun n d => base * n + d) 0
      .ok (if negative then -(n : Int) else n)
  | _ => .error (.notInteger base (String.ofList text))

/-- The texts between colons. -/
def colonParts : List Char → List (List Char)
  | [] => [[]]
  | c :: rest =>
    if c = ':' then [] :: colonParts rest
    else
      match colonParts rest with
      | part :: more => (c :: part) :: more
      | [] => [[c]]

/-- The integer of a text: binary, octal, hexadecimal, to the base of sixty, or decimal. -/
def integerOf (text : String) : Except Fault Int := do
  let chars := dropUnderscores text
  if chars.isEmpty then throw .emptyNumber
  let sign : Int := if chars.head? == some '-' then -1 else 1
  match unsigned chars with
  | [] => throw .emptyNumber
  | ['0'] => return 0
  | '0' :: 'b' :: rest => return sign * (← basedInteger 2 rest)
  | '0' :: 'x' :: rest => return sign * (← basedInteger 16 rest)
  | '0' :: rest => return sign * (← basedInteger 8 ('0' :: rest))
  | body =>
    if body.contains ':' then
      let parts ← (colonParts body).mapM (basedInteger 10)
      return sign * parts.foldl (fun n d => 60 * n + d) 0
    else return sign * (← basedInteger 10 body)

/-- The digits at the front of a text, decimal digits of any script, and the rest. -/
def frontDigits (text : List Char) : List Nat × List Char :=
  let digits := text.takeWhile Text.isDecimalDigit
  (digits.filterMap Text.digitValue?, text.drop digits.length)

/-- The exponent of a decimal number. -/
def exponentOf? (text : List Char) : Option Int :=
  match text with
  | [] => some 0
  | mark :: rest =>
    if mark == 'e' || mark == 'E' then
      match frontDigits (unsigned rest) with
      | (d :: ds, []) =>
        let n : Int := Text.ofDigits (d :: ds)
        some (if rest.head? == some '-' then -n else n)
      | _ => none
    else none

/-- The double of a text: a decimal number, or one of the words for what is no number. -/
def decimal? (text : List Char) : Option Binary64 :=
  let body := withoutMargins text
  let negative := body.head? == some '-'
  let body := unsigned body
  let word := String.ofList (body.map Char.toLower)
  if word == "inf" || word == "infinity" then some (.infinite negative)
  else if word == "nan" then some .notANumber
  else
    let (whole, rest) := frontDigits body
    let (places, rest) := match rest with
      | '.' :: rest => frontDigits rest
      | rest => ([], rest)
    if whole.isEmpty && places.isEmpty then none
    else (exponentOf? rest).map fun e =>
      .ofDecimal negative (Text.ofDigits (whole ++ places)) (max (-100000) (e - places.length))

/-- A double of the other sign. -/
def negated : Binary64 → Binary64
  | .finite negative m e => .finite (!negative) m e
  | .infinite negative => .infinite (!negative)
  | .notANumber => .notANumber

/-- A sum to the base of sixty, the first part the greatest, as a quotient of integers. -/
def sixtiesSum (parts : List Binary64) : Option (Int × Nat) :=
  parts.foldl (fun sum part => do
    let (num, den) ← sum
    match part with
    | .finite negative m e =>
      let (a, b) := Binary64.ratio m e
      some (60 * num * b + (if negative then -(a : Int) else a) * den, den * b)
    | _ => none) (some (0, 1))

/-- The double of a text. -/
def floatOf (text : String) : Except Fault Binary64 := do
  let chars := (dropUnderscores text).map Char.toLower
  if chars.isEmpty then throw .emptyNumber
  let signed (x : Binary64) : Binary64 := if chars.head? == some '-' then negated x else x
  let body := unsigned chars
  let one (text : List Char) : Except Fault Binary64 :=
    match decimal? text with
    | some x => .ok x
    | none => .error (.notFloat (String.ofList text))
  if body == ".inf".toList then return signed (.infinite false)
  else if body == ".nan".toList then return .notANumber
  else if body.contains ':' then
    match sixtiesSum (← (colonParts body).mapM one) with
    | some (num, den) => return signed (.ofRatio (num < 0) num.natAbs den)
    | none => return .notANumber
  else return signed (← one body)

/-- The value of a character of base 64. -/
def base64Digit? (c : Char) : Option Nat :=
  if 'A' ≤ c && c ≤ 'Z' then some (c.toNat - 'A'.toNat)
  else if 'a' ≤ c && c ≤ 'z' then some (c.toNat - 'a'.toNat + 26)
  else if '0' ≤ c && c ≤ '9' then some (c.toNat - '0'.toNat + 52)
  else if c == '+' then some 62
  else if c == '/' then some 63
  else none

/-- Bytes in base 64, last first. Four characters are three bytes; `held` characters with `bits`
wait for the rest of theirs, and `pads` marks of an end are read. Other characters are skipped. -/
def base64Bytes (done : List UInt8) (held bits pads : Nat) :
    List Char → Except Fault (List UInt8)
  | [] => if held == 0 then .ok done.reverse else .error .malformed
  | '=' :: rest =>
    if 2 ≤ held && 4 ≤ held + pads + 1 then .ok done.reverse
    else base64Bytes done held bits (if 2 ≤ held then pads + 1 else pads) rest
  | c :: rest =>
    match base64Digit? c with
    | none => base64Bytes done held bits pads rest
    | some d =>
      match held with
      | 0 => base64Bytes done 1 d 0 rest
      | 1 => base64Bytes ((bits * 4 + d / 16).toUInt8 :: done) 2 (d % 16) 0 rest
      | 2 => base64Bytes ((bits * 16 + d / 4).toUInt8 :: done) 3 (d % 4) 0 rest
      | _ => base64Bytes ((bits * 64 + d).toUInt8 :: done) 0 0 0 rest

/-- The bytes of a text in base 64. -/
def bytesOf (text : String) : Except Fault (List UInt8) :=
  if text.toList.all fun c => c.toNat < 0x80 then base64Bytes [] 0 0 0 text.toList
  else .error .malformed

/-- The number of ASCII digits. -/
def asciiNumber (digits : List Char) : Nat :=
  digits.foldl (fun n c => 10 * n + (c.toNat - '0'.toNat)) 0

/-- Whether year, month and day make a date. -/
def checkDate (year month day : Nat) : Except Fault Unit :=
  if year < 1 then .error (.badDate (.year year))
  else if month < 1 || 12 < month then .error (.badDate .month)
  else if day < 1 || Time.daysInMonth year month < day then .error (.badDate .day)
  else .ok ()

/-- Whether a time zone is less than a day away. -/
def checkZone (zone : List Char) : Except Fault Unit :=
  match zone with
  | sign :: rest =>
    if sign != '+' && sign != '-' then .ok ()
    else
      let (width, after) := upToTwo rest
      let hours := asciiNumber (rest.take width)
      let minutes := asciiNumber (after.drop 1)
      let seconds : Int := (hours * 3600 + minutes * 60 : Nat)
      let seconds := if sign == '-' then -seconds else seconds
      if -86400 < seconds && seconds < 86400 then .ok ()
      else .error (.badOffset (seconds / 86400) (seconds % 86400).toNat)
  | [] => .ok ()

/-- Whether a text is a date whose month and day may have one digit. -/
def isShortDate (chars : List Char) : Bool := isTimestamp (chars ++ "T0:00:00".toList)

/-- Whether a text is a date, or a date and a time, whose parts are in range. -/
def checkTimestamp (text : String) : Except Fault Unit := do
  let chars := text.toList
  let chars := if chars.getLast? == some '\n' then chars.dropLast else chars
  if !isTimestamp chars && !isShortDate chars then throw .notTimestamp
  let year := asciiNumber (chars.take 4)
  let (width, rest) := upToTwo (chars.drop 5)
  let month := asciiNumber ((chars.drop 5).take width)
  let (width, after) := upToTwo (rest.drop 1)
  let day := asciiNumber ((rest.drop 1).take width)
  let clock := after.dropWhile fun c => c == 'T' || c == 't' || c == ' ' || c == '\t'
  if clock.isEmpty then checkDate year month day
  else
    let (width, rest) := upToTwo clock
    let hour := asciiNumber (clock.take width)
    let minute := asciiNumber ((rest.drop 1).take 2)
    let second := asciiNumber ((rest.drop 4).take 2)
    let zone := ((rest.drop 6).dropWhile fun c => c == '.' || c.isDigit).dropWhile
      fun c => c == ' ' || c == '\t'
    checkZone zone
    checkDate year month day
    if 23 < hour then throw (.badDate .hour)
    if 59 < minute then throw (.badDate .minute)
    if 59 < second then throw (.badDate .second)

end NumberingPlan.Yaml
