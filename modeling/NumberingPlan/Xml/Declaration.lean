import NumberingPlan.Xml.Scan
import NumberingPlan.Text.Codec

/-! The declaration at the head of a document, and how the bytes of a document become characters:
by a byte order mark, by zero bytes at the front, or by the encoding that the declaration names. -/
namespace NumberingPlan.Xml

/-- The declaration at the head of a document. -/
structure Declaration where
  encoding : Option String
  standalone : Bool

/-- A value in a declaration is made of these. -/
def isDeclarationChar (c : Char) : Bool := c.isAlphanum || c == '.' || c == '-' || c == '_'

/-- A name and its value after at least one space; nothing if the text ends here. -/
def pseudoAttribute (text : List Char) :
    Except Fault (Option (String × String × List Char)) :=
  match text with
  | [] => .ok none
  | c :: _ =>
    if !isSpace c then .error .badDeclaration
    else
      match skipSpace text with
      | [] => .ok none
      | rest =>
        let (name, rest) := rest.span fun c => c != '=' && !isSpace c
        match skipSpace rest with
        | '=' :: rest => do
          let (value, rest) ← quotedLiteral (skipSpace rest)
          if name.isEmpty || !value.all isDeclarationChar then throw .badDeclaration
          return some (String.ofList name, String.ofList value, rest)
        | _ => .error .badDeclaration

/-- Whether a value reads yes or no. -/
def yesOrNo (value : String) : Except Fault Bool :=
  if value == "yes" then .ok true else if value == "no" then .ok false else .error .badDeclaration

/-- The last pair of a declaration, if there is one, is whether the document stands alone. -/
def standaloneOf (text : List Char) : Except Fault Bool := do
  match ← pseudoAttribute text with
  | none => return false
  | some (name, value, rest) =>
    if name != "standalone" then throw .badDeclaration
    let alone ← yesOrNo value
    if (skipSpace rest).isEmpty then return alone else throw .badDeclaration

/-- The declaration between its opening and its end. -/
def declarationOf (text : List Char) : Except Fault Declaration := do
  match ← pseudoAttribute text with
  | some ("version", _, rest) =>
    match ← pseudoAttribute rest with
    | none => return ⟨none, false⟩
    | some ("encoding", value, rest) =>
      if !(value.toList.head?.any Char.isAlpha) then throw .badDeclaration
      return ⟨some value, ← standaloneOf rest⟩
    | some _ => return ⟨none, ← standaloneOf rest⟩
  | _ => throw .badDeclaration

/-- The declaration at the front of a text, and the rest. A text without one has the empty one. -/
def splitDeclaration (text : List Char) : Except Fault (Declaration × List Char) :=
  match after? "<?xml".toList text with
  | some (c :: rest) =>
    if isSpace c then
      match until? ['?', '>'] [] (c :: rest) with
      | some (body, tail) => (declarationOf body).map fun declaration => (declaration, tail)
      | none => .error .unfinished
    else .ok (⟨none, false⟩, text)
  | _ => .ok (⟨none, false⟩, text)

/-- Bytes as pairs, the high byte first or last. An odd byte at the end is in none. -/
def units (bigEndian : Bool) (done : List Nat) : List UInt8 → List Nat
  | a :: b :: rest =>
    units bigEndian
      ((if bigEndian then 256 * a.toNat + b.toNat else 256 * b.toNat + a.toNat) :: done) rest
  | _ => done.reverse

/-- The characters of UTF-16 units. -/
def ofUnits (done : List Char) : List Nat → Except Fault (List Char)
  | [] => .ok done.reverse
  | [u] =>
    if 0xD800 ≤ u && u < 0xE000 then .error .badEncoding else .ok (Char.ofNat u :: done).reverse
  | u :: v :: rest =>
    if 0xD800 ≤ u && u < 0xDC00 then
      if 0xDC00 ≤ v && v < 0xE000 then
        ofUnits (Char.ofNat (0x10000 + (u - 0xD800) * 0x400 + (v - 0xDC00)) :: done) rest
      else .error .badEncoding
    else if 0xDC00 ≤ u && u < 0xE000 then .error .badEncoding
    else ofUnits (Char.ofNat u :: done) (v :: rest)

/-- The charset of bytes whose declaration names an encoding. A name other than UTF-8 has to stand
for a charset of single bytes, and markup has to be made of the bytes of ASCII in it. -/
def charsetOf (name : String) : Except Fault Text.Charset :=
  match name.map Char.toUpper with
  | "UTF-8" => .ok .utf8
  | "UTF-16" | "UTF-16BE" | "UTF-16LE" => .error .badEncoding
  | _ =>
    match Text.Codec.ofName? name with
    | some (.charset charset) => .ok charset
    | some .rearranged => .error .badEncoding
    | some .multiByte => .error (.badCharset .multiByte)
    | some .binary => .error (.badCharset (.notText name))
    | some (.failing cause) => .error (.badCharset (.failed name cause))
    | some .strictAscii => .error (.badCharset .notAscii)
    | none => .error (.badCharset (.unknown name))

/-- Bytes that are characters by themselves. -/
def ofBytes (bytes : List UInt8) : List Char := bytes.map fun b => Char.ofNat b.toNat

/-- The declaration and the characters after it, of bytes that are ASCII where markup is. -/
def readBytes (bytes : List UInt8) : Except Fault (Declaration × List Char) := do
  let (declaration, _) ← splitDeclaration (ofBytes bytes)
  let charset ← match declaration.encoding with
    | none => pure .utf8
    | some name => charsetOf name
  match charset.read? bytes with
  | some text => splitDeclaration text
  | none => throw .badEncoding

/-- The characters after the declaration of bytes in pairs that all stand for UTF-16. -/
def pairedText (bytes : List UInt8) (units : List Nat) : Except Fault (List Char) := do
  if bytes.length % 2 == 1 then throw .badEncoding
  return (← splitDeclaration (← ofUnits [] units)).2

/-- The declaration and the characters after it, of bytes in pairs. A name that the declaration
gives has to be one of the same kind; a charset of single bytes that is known only by its codec
is for the bytes after the declaration. -/
def readPairs (bigEndian : Bool) (bytes : List UInt8) :
    Except Fault (Declaration × List Char) := do
  let units := units bigEndian [] bytes
  let (declaration, rest) ← splitDeclaration (units.map Char.ofNat)
  match declaration.encoding with
  | none => return (declaration, ← pairedText bytes units)
  | some name =>
    match name.map Char.toUpper with
    | "UTF-16" => return (declaration, ← pairedText bytes units)
    | "UTF-16BE" =>
      if bigEndian then return (declaration, ← pairedText bytes units) else throw .badEncoding
    | "UTF-16LE" =>
      if bigEndian then throw .badEncoding else return (declaration, ← pairedText bytes units)
    | "UTF-8" | "ISO-8859-1" | "US-ASCII" => throw .badEncoding
    | _ =>
      let charset ← charsetOf name
      match charset.read? (bytes.drop (2 * (units.length - rest.length))) with
      | some text => return (declaration, text)
      | none => throw .badEncoding

/-- The declaration of a document and the characters after it: legal ones only, line ends as one
line feed each. -/
def readDocument (bytes : List UInt8) : Except Fault (Declaration × List Char) := do
  let (declaration, text) ← match bytes with
    | 0xFE :: 0xFF :: rest => readPairs true rest
    | 0xFF :: 0xFE :: rest => readPairs false rest
    | 0xEF :: 0xBB :: 0xBF :: rest => readBytes rest
    | 0 :: rest => readPairs true (0 :: rest)
    | a :: 0 :: rest => readPairs false (a :: 0 :: rest)
    | rest => readBytes rest
  if text.all isLegal then return (declaration, Text.unifyLineEnds text)
  else throw .illegalCharacter

end NumberingPlan.Xml
