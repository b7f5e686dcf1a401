import NumberingPlan.Json.Display
import NumberingPlan.Text.Loose

/-! Text templates. A percent sign begins a place that an argument fills: an optional key in
parentheses, flags, a width, a precision and the letter of the conversion. -/
namespace NumberingPlan.Template

/-- Why a template cannot be filled. -/
inductive Fault where
  | incomplete
  | incompleteKey
  | unsupported (letter : Char) (index : Nat)
  | tooBig (what : String)
  | starWants
  | starRange (kind : String)
  | precisionRange
  | tooFew
  | tooMany
  | needsMapping
  | missingKey (key : String)
  | keyIntoList
  | realRequired (letter : Char) (kind : String)
  | integerRequired (letter : Char) (kind : String)
  | floatRequired (kind : String)
  | characterRequired
  | characterRange
  | loneHalf
  | infiniteInteger
  | undefinedInteger
  | doubleRange
  | tooManyDigits
  deriving DecidableEq, Repr

def Fault.message : Fault → String
  | incomplete => "incomplete format"
  | incompleteKey => "incomplete format key"
  | unsupported letter index =>
    let shown := if 31 ≤ letter.toNat && letter.toNat < 127 then letter else '?'
    let code := String.ofList (Nat.toDigits 16 letter.toNat)
    s!"unsupported format character '{shown}' (0x{code}) at index {index}"
  | tooBig what => what ++ " too big"
  | starWants => "* wants int"
  | starRange kind => "Python int too large to convert to C " ++ kind
  | precisionRange => "precision too large"
  | tooFew => "not enough arguments for format string"
  | tooMany => "not all arguments converted during string formatting"
  | needsMapping => "format requires a mapping"
  | missingKey key => key
  | keyIntoList => "list indices must be integers or slices, not str"
  | realRequired letter kind => s!"%{letter} format: a real number is required, not {kind}"
  | integerRequired letter kind => s!"%{letter} format: an integer is required, not {kind}"
  | floatRequired kind => s!"must be real number, not {kind}"
  | characterRequired => "%c requires int or char"
  | characterRange => "%c arg not in range(0x110000)"
  | loneHalf => "surrogates not allowed"
  | infiniteInteger => "cannot convert float infinity to integer"
  | undefinedInteger => "cannot convert float NaN to integer"
  | doubleRange => "int too large to convert to float"
  | tooManyDigits => Text.tooManyDigits

/-- What a template is filled with: values in order, or one value. A single object is looked up by
key. -/
inductive Arguments where
  | many (values : List Json)
  | one (value : Json)

/-- The arguments not yet used. `keyed` is the object that keys are looked up in. -/
structure Supply where
  left : List Json
  keyed : Option Json

/-- The supply that a template begins with. -/
def Arguments.supply : Arguments → Supply
  | many values => ⟨values, none⟩
  | one value =>
    match value with
    | .obj _ | .arr _ => ⟨[value], some value⟩
    | _ => ⟨[value], none⟩

/-- One place of a template. -/
structure Place where
  leftJustified : Bool := false
  plus : Bool := false
  space : Bool := false
  alternate : Bool := false
  zero : Bool := false
  width : Nat := 0
  precision : Option Nat := none

/-- The characters of a template that are not yet read, and the index of the next. -/
structure Rest where
  chars : List Char
  index : Nat

def flags (place : Place) (index : Nat) : List Char → Place × Rest
  | '-' :: rest => flags { place with leftJustified := true } (index + 1) rest
  | '+' :: rest => flags { place with plus := true } (index + 1) rest
  | ' ' :: rest => flags { place with space := true } (index + 1) rest
  | '#' :: rest => flags { place with alternate := true } (index + 1) rest
  | '0' :: rest => flags { place with zero := true } (index + 1) rest
  | rest => (place, ⟨rest, index⟩)

/-- Reads a run of ASCII digits as a number. -/
def digits (n index : Nat) : List Char → Nat × Rest
  | [] => (n, ⟨[], index⟩)
  | c :: rest =>
    if c.isDigit then digits (10 * n + (c.toNat - '0'.toNat)) (index + 1) rest
    else (n, ⟨c :: rest, index⟩)

def Supply.next (supply : Supply) : Except Fault (Json × Supply) :=
  match supply.left with
  | value :: left => .ok (value, { supply with left := left })
  | [] => .error .tooFew

/-- One above the greatest width, written out or given by an argument. -/
def widthBound : Nat := 0x8000000000000000

/-- One above the greatest precision. -/
def precisionBound : Nat := 0x80000000

/-- An argument as a whole number between bounds, where a star asks for one. -/
def starValue (bound : Nat) (kind : String) (value : Json) : Except Fault Int := do
  let n ← match value with
    | .int n => pure n
    | .bool b => pure (if b then 1 else 0)
    | _ => throw .starWants
  if -(bound : Int) ≤ n ∧ n < bound then return n else throw (.starRange kind)

/-- Reads the width. A negative one from an argument asks for left justification. -/
def width (place : Place) (supply : Supply) (rest : Rest) :
    Except Fault (Place × Supply × Rest) :=
  match rest.chars with
  | '*' :: chars => do
    let (value, supply) ← supply.next
    let n ← starValue widthBound "ssize_t" value
    let place := if n < 0 then { place with leftJustified := true } else place
    return ({ place with width := n.natAbs }, supply, ⟨chars, rest.index + 1⟩)
  | chars =>
    let (n, rest) := digits 0 rest.index chars
    if widthBound ≤ n then .error (.tooBig "width")
    else .ok ({ place with width := n }, supply, rest)

/-- Reads the precision, if a point announces one. -/
def precision (place : Place) (supply : Supply) (rest : Rest) :
    Except Fault (Place × Supply × Rest) :=
  match rest.chars with
  | '.' :: '*' :: chars => do
    let (value, supply) ← supply.next
    let n ← starValue precisionBound "int" value
    return ({ place with precision := some n.toNat }, supply, ⟨chars, rest.index + 2⟩)
  | '.' :: chars =>
    let (n, rest) := digits 0 (rest.index + 1) chars
    if precisionBound ≤ n then .error (.tooBig "precision")
    else .ok ({ place with precision := some n }, supply, rest)
  | _ => .ok (place, supply, rest)

/-- Skips a letter of size, which means nothing. -/
def skipSize (rest : Rest) : Rest :=
  match rest.chars with
  | c :: chars => if c == 'h' || c == 'l' || c == 'L' then ⟨chars, rest.index + 1⟩ else rest
  | [] => rest

/-- Reads a key up to the parenthesis that closes it. -/
def key (depth : Nat) (read : List Char) (index : Nat) : List Char → Option (String × Rest)
  | [] => none
  | '(' :: rest => key (depth + 1) ('(' :: read) (index + 1) rest
  | ')' :: rest =>
    if depth == 0 then some (String.ofList read.reverse, ⟨rest, index + 1⟩)
    else key (depth - 1) (')' :: read) (index + 1) rest
  | c :: rest => key depth (c :: read) (index + 1) rest

/-- Looks a key up. -/
def Supply.lookup (supply : Supply) (name : String) : Except Fault Json :=
  match supply.keyed with
  | none => .error .needsMapping
  | some (.arr _) => .error .keyIntoList
  | some value =>
    match value.field? name with
    | some found => .ok found
    | none => .error (.missingKey name)

/-- Text in its field: sign and base mark before zeros, or spaces before them. -/
def padded (place : Place) (fill : Char) (sign base body : String) : String :=
  let fixed := sign.length + base.length + body.length
  let gap := String.ofList (List.replicate (place.width - fixed) fill)
  if place.leftJustified then
    sign ++ base ++ body ++ String.ofList (List.replicate (place.width - fixed) ' ')
  else if fill == ' ' then gap ++ sign ++ base ++ body
  else sign ++ base ++ gap ++ body

/-- The sign of a number in a place. -/
def signOf (place : Place) (negative : Bool) : String :=
  if negative then "-" else if place.plus then "+" else if place.space then " " else ""

/-- A text in a place, cut to the precision. -/
def textIn (place : Place) (s : String) : String :=
  let cut := match place.precision with
    | some n => String.ofList (s.toList.take n)
    | none => s
  padded place ' ' "" "" cut

/-- A value as a whole number; a double loses its fraction. -/
def wholeValue (letter : Char) : Json → Except Fault Int
  | .int n => .ok n
  | .bool b => .ok (if b then 1 else 0)
  | .float (.finite negative m e) =>
    let n : Int := Binary64.whole m e
    .ok (if negative then -n else n)
  | .float (.infinite _) => .error .infiniteInteger
  | .float .notANumber => .error .undefinedInteger
  | value => .error (.realRequired letter value.kindName)

/-- A value as a whole number, where a double will not do. -/
def exactValue (letter : Char) : Json → Except Fault Int
  | .int n => .ok n
  | .bool b => .ok (if b then 1 else 0)
  | value => .error (.integerRequired letter value.kindName)

/-- A whole number in a place, in a base that may be marked. Only decimal has a limit of digits. -/
def integerIn (place : Place) (base : Nat) (mark : String) (capitals : Bool) (n : Int) :
    Except Fault String :=
  let plain := Nat.toDigits base n.natAbs
  let cased := if capitals then plain.map Char.toUpper else plain
  let least := place.precision.getD 0
  let body := String.ofList (List.replicate (least - cased.length) '0' ++ cased)
  if precisionBound ≤ least + 3 then .error .precisionRange
  else if base == 10 && !Text.isWritable n then .error .tooManyDigits
  else
    .ok (padded place (if place.zero then '0' else ' ') (signOf place (n < 0))
      (if place.alternate then mark else "") body)

def doubleValue : Json → Except Fault Binary64
  | .float x => .ok x
  | .int n =>
    match Binary64.ofInt n with
    | .infinite _ => .error .doubleRange
    | x => .ok x
  | .bool b => .ok (.ofInt (if b then 1 else 0))
  | value => .error (.floatRequired value.kindName)

/-- Drops the zeros at the end of a fraction, and the point if nothing is left of it. -/
def dropZeros (s : String) : String :=
  if s.toList.contains '.' then
    let kept := s.toList.reverse.dropWhile (· == '0')
    String.ofList (if kept.head? == some '.' then kept.tail.reverse else kept.reverse)
  else s

/-- A positive quotient in the form that suits its size. -/
def general (alternate : Bool) (precision num den : Nat) : String :=
  let p := max precision 1
  let (d, k) := Decimal.leading (p - 1) num den
  if -4 ≤ k && k < p then
    let fixed := Decimal.fixed (p - 1 - k).toNat num den
    if !alternate then dropZeros fixed
    else if fixed.toList.contains '.' then fixed else fixed ++ "."
  else
    let body := Decimal.pointed (p - 1) d
    let body := if alternate then (if p == 1 then body ++ "." else body) else dropZeros body
    body ++ Decimal.exponentText k

def doubleIn (place : Place) (letter : Char) (x : Binary64) : String :=
  let precision := place.precision.getD 6
  let (negative, body) := match x with
    | .notANumber => (false, "nan")
    | .infinite negative => (negative, "inf")
    | .finite negative m e =>
      let (num, den) := Binary64.ratio m e
      let body := match letter.toLower with
        | 'f' =>
          let body := Decimal.fixed precision num den
          if place.alternate && precision == 0 then body ++ "." else body
        | 'e' =>
          let (d, k) := Decimal.leading precision num den
          let body := Decimal.pointed precision d
          (if place.alternate && precision == 0 then body ++ "." else body) ++
            Decimal.exponentText k
        | _ => general place.alternate precision num den
      (negative, body)
  let cased := if letter.isUpper then body.map Char.toUpper else body
  padded place (if place.zero then '0' else ' ') (signOf place negative) "" cased

/-- The character of a number. Half of a surrogate pair is no text by itself. -/
def characterOf (n : Int) : Except Fault String :=
  if n < 0 || 0x110000 ≤ n then .error .characterRange
  else
    match CodePoint.ofNat n.toNat with
    | .character c => .ok (String.singleton c)
    | .half _ => .error .loneHalf

def characterValue : Json → Except Fault String
  | .str s => if s.length == 1 then .ok s else .error .characterRequired
  | .int n => characterOf n
  | .bool b => characterOf (if b then 1 else 0)
  | _ => .error .characterRequired

/-- Escapes what is beyond ASCII in a quoted text. -/
def asciiOnly (s : String) : String :=
  String.ofList (s.toList.flatMap fun c =>
    if c.toNat < 0x80 then [c]
    else if c.toNat < 0x100 then '\\' :: 'x' :: Text.hexDigits 2 c.toNat
    else if c.toNat < 0x10000 then '\\' :: 'u' :: Text.hexDigits 4 c.toNat
    else '\\' :: 'U' :: Text.hexDigits 8 c.toNat)

/-- A value as a text, unless a number in it has too many digits. -/
def shown (form : Json → String) (value : Json) : Except Fault String :=
  if value.isWritable then .ok (form value) else .error .tooManyDigits

/-- A value in a place, as the letter asks for. -/
def convert (place : Place) (letter : Char) (index : Nat) (value : Json) : Except Fault String :=
  match letter with
  | 's' => (shown Json.display value).map (textIn place)
  | 'r' => (shown Json.quotedForm value).map (textIn place)
  | 'a' => (shown (fun value => asciiOnly value.quotedForm) value).map (textIn place)
  | 'd' | 'i' | 'u' => do integerIn place 10 "" false (← wholeValue letter value)
  | 'o' => do integerIn place 8 "0o" false (← exactValue letter value)
  | 'x' => do integerIn place 16 "0x" false (← exactValue letter value)
  | 'X' => do integerIn place 16 "0X" true (← exactValue letter value)
  | 'e' | 'E' | 'f' | 'F' | 'g' | 'G' => (doubleValue value).map (doubleIn place letter)
  | 'c' => (characterValue value).map (padded place ' ' "" "")
  | _ => .error (.unsupported letter index)

/-- A place after its percent sign: the text that fills it. Another percent sign at once stands for
itself, and is no letter of a conversion elsewhere. -/
def fill (supply : Supply) (start : Rest) : Except Fault (String × Supply × Rest) := do
  if start.chars.head? == some '%' then
    return ("%", supply, ⟨start.chars.tail, start.index + 1⟩)
  let (supply, start) ← match start.chars with
    | '(' :: chars =>
      if supply.keyed.isNone then throw .needsMapping
      else
        match key 0 [] (start.index + 1) chars with
        | none => throw .incompleteKey
        | some (name, rest) => do
          let value ← supply.lookup name
          pure ({ supply with left := [value] }, rest)
    | _ => pure (supply, start)
  let (place, rest) := flags {} start.index start.chars
  let (place, supply, rest) ← width place supply rest
  let (place, supply, rest) ← precision place supply rest
  let rest := skipSize rest
  match rest.chars with
  | [] => throw .incomplete
  | letter :: chars =>
    let (value, supply) ← supply.next
    let s ← convert place letter rest.index value
    return (s, supply, ⟨chars, rest.index + 1⟩)

/-- Fills the places of a template one after another. The fuel counts characters; each place takes
at least one. -/
def run : Nat → Supply → Rest → List Char → Except Fault (Supply × List Char)
  | 0, supply, _, done => .ok (supply, done)
  | fuel + 1, supply, rest, done =>
    match rest.chars with
    | [] => .ok (supply, done)
    | '%' :: chars => do
      let (s, supply, rest) ← fill supply ⟨chars, rest.index + 1⟩
      run fuel supply rest (s.toList.reverse ++ done)
    | c :: chars => run fuel supply ⟨chars, rest.index + 1⟩ (c :: done)

/-- A template with its places filled. Every argument has to be used, unless they are looked up by
key. -/
def format (template : String) (arguments : Arguments) : Except Fault String := do
  let chars := template.toList
  let (supply, done) ← run chars.length arguments.supply ⟨chars, 0⟩ []
  if supply.keyed.isNone && !supply.left.isEmpty then throw .tooMany
  return String.ofList done.reverse

end NumberingPlan.Template
