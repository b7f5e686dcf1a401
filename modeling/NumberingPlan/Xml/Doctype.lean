import NumberingPlan.Xml.Scan

/-! The document type declaration. Of its declarations only entities and the attributes of elements
matter for what a document says; the others have to be well written and are otherwise skipped. What
another file would declare is never read. -/
namespace NumberingPlan.Xml

/-- What an entity stands for. -/
inductive Entity where
  | internal (text : List Char)
  | elsewhere
  deriving Repr

/-- A declared attribute: whether its value is a list of tokens, and the value that it has where an
element gives none. -/
structure AttributeRule where
  name : String
  tokens : Bool
  fallback : Option String
  deriving Repr

/-- What a document declares. `partly` says that some declarations may stand elsewhere, and `alone`
that they do not matter. -/
structure Doctype where
  entities : List (String × Entity) := []
  rules : List (String × AttributeRule) := []
  partly : Bool := false
  alone : Bool := false
  deriving Repr

namespace Doctype

/-- Whether every entity has to be declared here. -/
def closed (d : Doctype) : Bool := !d.partly || d.alone

/-- Whether declarations still count: they do not after one that is not read. -/
def reading (d : Doctype) (skipped : Bool) : Bool := !skipped || d.alone

/-- Declares an entity; the first declaration counts, and the five known ones stay. -/
def addEntity (d : Doctype) (name : String) (entity : Entity) : Doctype :=
  if (predefined? name).isSome || (d.entities.lookup name).isSome then d
  else { d with entities := d.entities ++ [(name, entity)] }

/-- The declared attributes of an element, in order. -/
def rulesOf (d : Doctype) (element : String) : List AttributeRule :=
  (d.rules.filter (·.1 == element)).map (·.2)

/-- Declares an attribute; the first declaration counts. -/
def addRule (d : Doctype) (element : String) (rule : AttributeRule) : Doctype :=
  if (d.rulesOf element).any (·.name == rule.name) then d
  else { d with rules := d.rules ++ [(element, rule)] }

end Doctype

/-- A text that is being read: the document itself or an entity in it. -/
structure OpenText where
  entity : Option String
  rest : List Char

/-- The text of an attribute value with its references resolved, last character first. Line ends
and tabs become spaces; what a character reference names stays. The fuel bounds how much entities
may yield. -/
def attributeChars (d : Doctype) :
    Nat → List OpenText → List Char → Except Fault (List Char)
  | 0, _, _ => .error .entityExplosion
  | fuel + 1, texts, done =>
    match texts with
    | [] => .ok done
    | top :: below =>
      match top.rest with
      | [] => attributeChars d fuel below done
      | '<' :: _ => .error .badTag
      | '&' :: rest => do
        match ← reference rest with
        | (.character c, rest) =>
          attributeChars d fuel ({ top with rest := rest } :: below) (c :: done)
        | (.entity name, rest) =>
          let texts := { top with rest := rest } :: below
          match d.entities.lookup name with
          | none =>
            if d.closed then throw .undefinedEntity else attributeChars d fuel texts done
          | some .elsewhere => throw .externalEntity
          | some (.internal text) =>
            if texts.any (·.entity == some name) then throw .recursiveEntity
            else attributeChars d fuel (⟨some name, text⟩ :: texts) done
      | c :: rest =>
        attributeChars d fuel ({ top with rest := rest } :: below)
          ((if isSpace c then ' ' else c) :: done)

/-- How many characters a text and the entities in it may yield. -/
def allowance (size : Nat) : Nat := 8388608 + 100 * size

/-- Drops spaces at both ends and leaves one of several in a row. -/
def collapse (text : List Char) : List Char :=
  let single := text.foldl (fun done c =>
    if c == ' ' && (done.isEmpty || done.head? == some ' ') then done else c :: done) []
  (if single.head? == some ' ' then single.tail else single).reverse

def attributeValue (d : Doctype) (tokens : Bool) (literal : List Char) :
    Except Fault String := do
  let done ← attributeChars d (allowance literal.length) [⟨none, literal⟩] []
  let text := done.reverse
  return String.ofList (if tokens then collapse text else text)

/-- The replacement text of an entity literal: character references are resolved and all others
kept. References to parameters are not allowed here. `done` comes last first. -/
def entityText (fuel : Nat) (done : List Char) (literal : List Char) :
    Except Fault (List Char) :=
  match fuel, literal with
  | _, [] => .ok done.reverse
  | 0, _ => .error .badDoctype
  | fuel + 1, '&' :: rest => do
    let (name, after) ← reference rest
    match name, rest with
    | .character c, '#' :: _ => entityText fuel (c :: done) after
    | _, _ =>
      let kept := '&' :: rest.take (rest.length - after.length)
      entityText fuel (kept.reverse ++ done) after
  | _ + 1, '%' :: _ => .error .badDoctype
  | fuel + 1, c :: rest => entityText fuel (c :: done) rest

/-- A piece of a declaration. -/
inductive Piece where
  | name (text : String)
  | qualified (text : String)
  | token (text : String)
  | repeated (text : String)
  | literal (text : List Char)
  | keyword (text : String)
  | percent
  | opening
  | closing (mark : Option Char)
  | bar
  | comma
  deriving DecidableEq, Repr

/-- Whether a piece may end before what follows. -/
def endsPiece (marks : List Char) : List Char → Bool
  | [] => false
  | c :: _ => isSpace c || marks.contains c

/-- The kind of word that a run of name characters and colons is. -/
def wordPiece (text : List Char) : Piece :=
  let s := String.ofList text
  match text with
  | c :: _ =>
    if !isNameStart c then .token s
    else
      match text.dropWhile isNameChar with
      | [] => .name s
      | _ :: rest => if rest.isEmpty || rest.contains ':' then .token s else .qualified s
  | [] => .token s

/-- A word and the mark of repetition that may follow it. -/
def word (text : List Char) : Except Fault (Piece × List Char) :=
  let (read, rest) := text.span fun c => isNameChar c || c == ':'
  let piece := wordPiece read
  match rest with
  | c :: tail =>
    if c == '+' || c == '*' || c == '?' then
      match piece with
      | .token _ => .error .badDoctype
      | _ => .ok (.repeated (String.ofList read), tail)
    else if endsPiece ['>', ')', ',', '|', '[', '%'] rest then .ok (piece, rest)
    else .error .badDoctype
  | [] => .error .unfinished

/-- The next piece of a declaration. -/
def piece (text : List Char) : Except Fault (Piece × List Char) :=
  match text with
  | [] => .error .unfinished
  | '"' :: _ | '\'' :: _ => do
    let (read, rest) ← quotedLiteral text
    if endsPiece ['>', '%', '['] rest then return (.literal read, rest) else throw .badDoctype
  | '#' :: rest => do
    let (name, rest) ← simpleName rest
    if endsPiece [')', '>', '%', '|'] rest then return (.keyword name, rest)
    else throw .badDoctype
  | '%' :: rest => if endsPiece ['%'] rest then .ok (.percent, rest) else .error .badDoctype
  | '(' :: rest => .ok (.opening, rest)
  | ')' :: rest =>
    match rest with
    | c :: tail =>
      if c == '+' || c == '*' || c == '?' then .ok (.closing (some c), tail)
      else if endsPiece ['>', ',', '|', ')'] rest then .ok (.closing none, rest)
      else .error .badDoctype
    | [] => .error .unfinished
  | '|' :: rest => .ok (.bar, rest)
  | ',' :: rest => .ok (.comma, rest)
  | c :: _ => if isNameChar c || c == ':' then word text else .error .badDoctype

/-- The pieces of a declaration, and the text from the mark on that ends them. -/
def pieces (fuel : Nat) (done : List Piece) (text : List Char) :
    Except Fault (List Piece × List Char) :=
  match fuel with
  | 0 => .error .unfinished
  | fuel + 1 =>
    match skipSpace text with
    | '>' :: rest => .ok (done.reverse, '>' :: rest)
    | '[' :: rest => .ok (done.reverse, '[' :: rest)
    | rest => do
      let (p, rest) ← piece rest
      pieces fuel (p :: done) rest

/-- Whether a literal may be a public identifier. -/
def checkPublicId (text : List Char) : Except Fault Unit :=
  if text.all isPublicIdChar then .ok () else .error .badDoctype

/-- Where something is kept that is not in the document; the pieces after it. -/
def externalId (ps : List Piece) : Except Fault (List Piece) :=
  match ps with
  | .name "SYSTEM" :: .literal _ :: rest => .ok rest
  | .name "PUBLIC" :: .literal id :: .literal _ :: rest => do
    checkPublicId id
    return rest
  | _ => .error .badDoctype

def entityDeclaration (d : Doctype) (reading : Bool) (ps : List Piece) :
    Except Fault Doctype :=
  match ps with
  | [.name name, .literal text] =>
    if reading then do
      let text ← entityText text.length [] text
      return d.addEntity name (.internal text)
    else .ok d
  | [.percent, .name _, .literal text] =>
    if reading then do
      let _ ← entityText text.length [] text
      return d
    else .ok d
  | .percent :: .name _ :: rest => do
    if (← externalId rest).isEmpty then return d else throw .badDoctype
  | .name name :: rest => do
    match ← externalId rest with
    | [] | [.name "NDATA", .name _] =>
      return if reading then d.addEntity name .elsewhere else d
    | _ => throw .badDoctype
  | _ => .error .badDoctype

def notationDeclaration (ps : List Piece) : Except Fault Unit :=
  match ps with
  | [.name _, .name "SYSTEM", .literal _] => .ok ()
  | [.name _, .name "PUBLIC", .literal id] | [.name _, .name "PUBLIC", .literal id, .literal _] =>
    checkPublicId id
  | _ => .error .badDoctype

/-- The alternatives of an enumerated attribute, the first of them next. -/
def enumeration (names : Bool) : List Piece → Except Fault (List Piece)
  | p :: .bar :: rest =>
    match p with
    | .name _ => enumeration names rest
    | .qualified _ | .token _ => if names then .error .badDoctype else enumeration names rest
    | _ => .error .badDoctype
  | p :: .closing none :: rest =>
    match p with
    | .name _ => .ok rest
    | .qualified _ | .token _ => if names then .error .badDoctype else .ok rest
    | _ => .error .badDoctype
  | _ => .error .badDoctype

/-- The type of an attribute: whether it is a list of tokens, and the pieces after it. -/
def attributeType (ps : List Piece) : Except Fault (Bool × List Piece) :=
  match ps with
  | .name "CDATA" :: rest => .ok (false, rest)
  | .name "NOTATION" :: .opening :: rest => (enumeration true rest).map fun rest => (true, rest)
  | .name kind :: rest =>
    if ["ID", "IDREF", "IDREFS", "ENTITY", "ENTITIES", "NMTOKEN", "NMTOKENS"].contains kind then
      .ok (true, rest)
    else .error .badDoctype
  | .opening :: rest => (enumeration false rest).map fun rest => (true, rest)
  | _ => .error .badDoctype

/-- The attributes that an element is declared to have. -/
def attributeList (element : String) (reading : Bool) :
    Nat → Doctype → List Piece → Except Fault Doctype
  | _, d, [] => .ok d
  | 0, _, _ => .error .badDoctype
  | fuel + 1, d, p :: rest => do
    let name ← match p with
      | .name name | .qualified name => pure name
      | _ => throw .badDoctype
    let (tokens, rest) ← attributeType rest
    let (value, rest) ← match rest with
      | .keyword "IMPLIED" :: rest | .keyword "REQUIRED" :: rest => pure (none, rest)
      | .keyword "FIXED" :: .literal value :: rest | .literal value :: rest =>
        pure (some value, rest)
      | _ => throw .badDoctype
    if reading then
      let fallback ← match value with
        | some value => some <$> attributeValue d tokens value
        | none => pure none
      attributeList element reading fuel (d.addRule element ⟨name, tokens, fallback⟩) rest
    else attributeList element reading fuel d rest

/-- The alternatives of mixed content after the first, and its end. -/
def mixedAlternatives : List Piece → Except Fault Unit
  | [.closing (some '*')] => .ok ()
  | .bar :: .name _ :: rest | .bar :: .qualified _ :: rest => mixedAlternatives rest
  | _ => .error .badDoctype

/-- The alternatives of mixed content after its first keyword. -/
def mixedContent : List Piece → Except Fault Unit
  | [.closing mark] => if mark.all (· == '*') then .ok () else .error .badDoctype
  | .bar :: .name _ :: rest | .bar :: .qualified _ :: rest => mixedAlternatives rest
  | _ => .error .badDoctype

/-- Groups of elements, one inside another. `connectors` holds for every open group what connects
its parts, if that is known, and `part` says that a part comes next. -/
def groupContent (connectors : List (Option Piece)) (part : Bool) :
    List Piece → Except Fault Unit
  | [] => if connectors.isEmpty && !part then .ok () else .error .badDoctype
  | p :: rest =>
    match connectors with
    | [] => .error .badDoctype
    | connector :: outer =>
      if part then
        match p with
        | .opening => groupContent (none :: connectors) true rest
        | .name _ | .qualified _ | .repeated _ => groupContent connectors false rest
        | _ => .error .badDoctype
      else
        match p with
        | .closing _ => groupContent outer false rest
        | .bar | .comma =>
          if connector.all (· == p) then groupContent (some p :: outer) true rest
          else .error .badDoctype
        | _ => .error .badDoctype

def elementDeclaration (ps : List Piece) : Except Fault Unit := do
  let content ← match ps with
    | .name _ :: rest | .qualified _ :: rest => pure rest
    | _ => throw .badDoctype
  match content with
  | [.name "EMPTY"] | [.name "ANY"] => return
  | .opening :: .keyword "PCDATA" :: rest => mixedContent rest
  | .opening :: rest => groupContent [none] true rest
  | _ => throw .badDoctype

/-- One declaration by its keyword. -/
def declare (d : Doctype) (reading : Bool) (kind : String) (ps : List Piece) :
    Except Fault Doctype :=
  match kind with
  | "ENTITY" => entityDeclaration d reading ps
  | "ATTLIST" =>
    match ps with
    | .name element :: rest | .qualified element :: rest =>
      attributeList element reading rest.length d rest
    | _ => .error .badDoctype
  | "ELEMENT" => (elementDeclaration ps).map fun _ => d
  | "NOTATION" => (notationDeclaration ps).map fun _ => d
  | _ => .error .badDoctype

/-- The declarations between brackets, and the rest after them. `skipped` says that one was not
read. -/
def declarations (skipped : Bool) :
    Nat → Doctype → List Char → Except Fault (Doctype × List Char)
  | 0, _, _ => .error .unfinished
  | fuel + 1, d, text =>
    match skipSpace text with
    | ']' :: rest => .ok (d, rest)
    | '%' :: rest => do
      let (_, rest) ← simpleName rest
      match rest with
      | ';' :: rest => declarations true fuel { d with partly := true } rest
      | _ => throw .badDoctype
    | '<' :: '?' :: rest => do declarations skipped fuel d (← skipInstruction rest)
    | '<' :: '!' :: '-' :: '-' :: rest => do declarations skipped fuel d (← skipComment rest)
    | '<' :: '!' :: rest => do
      let (kind, rest) ← simpleName rest
      if !endsPiece ['%'] rest then throw .badDoctype
      let (ps, rest) ← pieces (rest.length + 1) [] rest
      match rest with
      | '>' :: rest =>
        let d ← declare d (d.reading skipped) kind ps
        declarations skipped fuel d rest
      | _ => throw .badDoctype
    | _ => .error .badDoctype

/-- A document type declaration whose keyword is read, and the rest after it. -/
def doctype (alone : Bool) (text : List Char) : Except Fault (Doctype × List Char) := do
  if !endsPiece ['%'] text then throw .badDoctype
  let (ps, rest) ← pieces (text.length + 1) [] text
  let outside ← match ps with
    | .name _ :: outside | .qualified _ :: outside => pure outside
    | _ => throw .badDoctype
  let partly ← if outside.isEmpty then pure false else do
    if (← externalId outside).isEmpty then pure true else throw .badDoctype
  let d : Doctype := { partly := partly, alone := alone }
  match rest with
  | '[' :: rest =>
    let (d, rest) ← declarations false (rest.length + 1) d rest
    match skipSpace rest with
    | '>' :: rest => return (d, rest)
    | _ => throw .badDoctype
  | '>' :: rest => return (d, rest)
  | _ => throw .badDoctype

end NumberingPlan.Xml
