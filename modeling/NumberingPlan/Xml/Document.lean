import NumberingPlan.Xml.Declaration
import NumberingPlan.Xml.Doctype
import NumberingPlan.Xml.Element

/-! Whole documents. The content is read one piece of markup at a time; what is open is kept on two
stacks, one of elements and one of the texts that are being read, the document at the bottom and
the entities in it above. -/
namespace NumberingPlan.Xml

/-- The namespaces in force under their marks; the default one has the empty mark. -/
abbrev Namespaces := List (String × String)

/-- The namespace of the mark `xml`. -/
def xmlNamespace : String := "http://www.w3.org/XML/1998/namespace"

/-- The namespace that no mark may have. -/
def xmlnsNamespace : String := "http://www.w3.org/2000/xmlns/"

/-- The part of a name before its colon, and the part after it. -/
def splitName (name : String) : String × String :=
  match name.toList.span (· != ':') with
  | (front, _ :: back) => (String.ofList front, String.ofList back)
  | (front, []) => ("", String.ofList front)

/-- The mark that an attribute of this name declares, if it declares a namespace. -/
def declaredMark? (name : String) : Option String :=
  if name == "xmlns" then some ""
  else
    match splitName name with
    | ("xmlns", mark) => some mark
    | _ => none

/-- Puts a namespace in force. -/
def bindNamespace (spaces : Namespaces) (mark uri : String) : Except Fault Namespaces :=
  if uri.isEmpty && !mark.isEmpty then .error .badNamespace
  else if mark == "xmlns" || uri == xmlnsNamespace then .error .badNamespace
  else if (mark == "xml") != (uri == xmlNamespace) then .error .badNamespace
  else if uri.toList.contains '\x7d' then .error .badNamespace
  else .ok ((mark, uri) :: spaces)

/-- A name with its namespace in braces. An unmarked name has the default one if `element` is
set. -/
def expandName (spaces : Namespaces) (element : Bool) (name : String) :
    Except Fault String :=
  let (mark, base) := splitName name
  if mark.isEmpty && !element then .ok name
  else
    match spaces.lookup mark with
    | some uri => .ok (if uri.isEmpty then base else "\x7b" ++ uri ++ "\x7d" ++ base)
    | none => if mark.isEmpty then .ok name else .error .badNamespace

/-- Whether no text occurs twice. -/
def distinct : List String → Bool
  | [] => true
  | s :: rest => !rest.contains s && distinct rest

/-- A start tag: its name, its attributes as written, and whether it also ends the element. -/
structure Tag where
  name : String
  attributes : List (String × List Char)
  empty : Bool

/-- The attributes of a start tag up to its end, those read before last first. Every attribute takes
at least one character, so a text as long as the tag bounds their number. -/
def tagRest (name : String) (done : List (String × List Char)) :
    List Char → List Char → Except Fault (Tag × List Char)
  | [], _ => .error .unfinished
  | _ :: bound, text =>
    match skipSpace text with
    | '>' :: rest => .ok (⟨name, done.reverse, false⟩, rest)
    | '/' :: '>' :: rest => .ok (⟨name, done.reverse, true⟩, rest)
    | rest => do
      if !(text.head?.any isSpace) then throw .badTag
      let (key, rest) ← qualifiedName rest
      match skipSpace rest with
      | '=' :: rest =>
        let (value, rest) ← quotedLiteral (skipSpace rest)
        tagRest name ((key, value) :: done) bound rest
      | _ => throw .badTag

/-- A start tag whose bracket is read. -/
def startTag (text : List Char) : Except Fault (Tag × List Char) := do
  let (name, rest) ← qualifiedName text
  tagRest name [] text rest

/-- The name of an end tag whose opening is read. -/
def endTag (text : List Char) : Except Fault (String × List Char) := do
  let (name, rest) ← qualifiedName text
  match skipSpace rest with
  | '>' :: rest => return (name, rest)
  | _ => throw .badTag

/-- Character data up to markup or a reference, last first, and the rest. The end mark of a literal
section may not occur in it. -/
def characterData (done : List Char) : List Char → Except Fault (List Char × List Char)
  | [] => .ok (done, [])
  | ']' :: ']' :: '>' :: _ => .error .badText
  | c :: rest =>
    if c == '<' || c == '&' then .ok (done, c :: rest) else characterData (c :: done) rest

/-- An element whose end tag is not read: its name as written and in full, its attributes, its text
and children so far, last first, and the namespaces in force in it. -/
structure OpenElement where
  written : String
  name : String
  attributes : List (String × String)
  text : List Char
  children : List Element
  spaces : Namespaces

/-- The element that an open one becomes. -/
def OpenElement.close (e : OpenElement) : Element :=
  .node e.name e.attributes (String.ofList e.text.reverse) e.children.reverse

/-- Adds text, the last character first. Text after a child is not kept. -/
def OpenElement.addText (e : OpenElement) (text : List Char) : OpenElement :=
  if e.children.isEmpty then { e with text := text ++ e.text } else e

/-- A text that is being read, and how many elements were open when it began. -/
structure Frame extends OpenText where
  depth : Nat

/-- The content read so far: open texts and open elements, innermost first, and the root once it
has ended. -/
structure Content where
  frames : List Frame
  elements : List OpenElement
  root : Option Element

/-- An element is complete: it joins its parent, or it is the root. -/
def Content.put (c : Content) (e : Element) : Content :=
  match c.elements with
  | parent :: outer =>
    { c with elements := { parent with children := e :: parent.children } :: outer }
  | [] => { c with root := some e }

/-- Character data in the innermost element. -/
def Content.addText (c : Content) (text : List Char) : Content :=
  match c.elements with
  | e :: outer => { c with elements := e.addText text :: outer }
  | [] => c

/-- An element that a tag begins: declared attributes that the tag does not give follow those that
it gives, namespaces take effect, and names are written in full. -/
def openElement (d : Doctype) (outer : Namespaces) (tag : Tag) : Except Fault OpenElement := do
  let rules := d.rulesOf tag.name
  if !distinct (tag.attributes.map (·.1)) then throw .repeatedAttribute
  let given ← tag.attributes.mapM fun (key, literal) => do
    let tokens := (rules.find? (·.name == key)).any (·.tokens)
    return (key, ← attributeValue d tokens literal)
  let missing := rules.filterMap fun rule =>
    if given.any (·.1 == rule.name) then none
    else rule.fallback.map fun value => (rule.name, value)
  let all := given ++ missing
  let spaces ← all.foldlM (fun spaces (key, value) =>
    match declaredMark? key with
    | some mark => bindNamespace spaces mark value
    | none => pure spaces) outer
  let plain := all.filter fun (key, _) => (declaredMark? key).isNone
  let attributes ← plain.mapM fun (key, value) => do return (← expandName spaces false key, value)
  if !distinct (attributes.map (·.1)) then throw .repeatedAttribute
  return {
    written := tag.name
    name := ← expandName spaces true tag.name
    attributes := attributes
    text := []
    children := []
    spaces := spaces }

/-- A start tag takes effect. -/
def Content.start (c : Content) (d : Doctype) (tag : Tag) : Except Fault Content := do
  let spaces := match c.elements with
    | e :: _ => e.spaces
    | [] => [("xml", xmlNamespace)]
  let e ← openElement d spaces tag
  if tag.empty then return c.put e.close else return { c with elements := e :: c.elements }

/-- An end tag takes effect. It ends the innermost element, which has to have begun in the same
text. -/
def Content.finish (c : Content) (depth : Nat) (name : String) : Except Fault Content :=
  match c.elements with
  | e :: outer =>
    if 0 < depth ∧ c.elements.length ≤ depth then .error .unbalancedEntity
    else if e.written == name then .ok ({ c with elements := outer }.put e.close)
    else .error .mismatchedTag
  | [] => .error .mismatchedTag

/-- An entity takes effect where text may stand. -/
def Content.enter (c : Content) (d : Doctype) (name : String) : Except Fault Content :=
  match d.entities.lookup name with
  | none => .error .undefinedEntity
  | some .elsewhere => .error .externalEntity
  | some (.internal text) =>
    if c.frames.any (·.entity == some name) then .error .recursiveEntity
    else .ok { c with frames := ⟨⟨some name, text⟩, c.elements.length⟩ :: c.frames }

/-- Reads one piece of markup or text from the innermost open text, which is not empty. -/
def Content.read (c : Content) (d : Doctype) (top : Frame) (below : List Frame) :
    Except Fault Content :=
  let go (rest : List Char) : Content :=
    { c with frames := { top with rest := rest } :: below }
  match top.rest with
  | '<' :: '/' :: rest => do
    let (name, rest) ← endTag rest
    (go rest).finish top.depth name
  | '<' :: '?' :: rest => do return go (← skipInstruction rest)
  | '<' :: '!' :: '-' :: '-' :: rest => do return go (← skipComment rest)
  | '<' :: '!' :: rest =>
    match after? "[CDATA[".toList rest, c.elements with
    | some rest, _ :: _ =>
      match until? [']', ']', '>'] [] rest with
      | some (text, rest) => .ok ((go rest).addText text.reverse)
      | none => .error .unfinished
    | _, _ => .error .badTag
  | '<' :: rest =>
    if c.root.isSome then .error .trailingContent
    else do
      let (tag, rest) ← startTag rest
      (go rest).start d tag
  | '&' :: rest =>
    if c.elements.isEmpty then .error .trailingContent
    else do
      match ← reference rest with
      | (.character r, rest) => return (go rest).addText [r]
      | (.entity name, rest) => (go rest).enter d name
  | text => do
    let (data, rest) ← characterData [] text
    if c.elements.isEmpty then
      if data.all isSpace then return go rest else throw .trailingContent
    else return (go rest).addText data

/-- Reads content to the end. The fuel bounds how much entities may yield. -/
def Content.run (d : Doctype) : Nat → Content → Except Fault Element
  | 0, _ => .error .entityExplosion
  | fuel + 1, c =>
    match c.frames with
    | [] =>
      match c.root with
      | some root => .ok root
      | none => .error .noElement
    | top :: below =>
      if top.rest.isEmpty then
        if c.elements.length == top.depth then Content.run d fuel { c with frames := below }
        else .error .unbalancedEntity
      else
        match c.read d top below with
        | .ok c => Content.run d fuel c
        | .error fault => .error fault

/-- What stands before the first element: comments, instructions, space and at most one document
type. -/
def prolog (alone : Bool) (seen : Option Doctype) :
    Nat → List Char → Except Fault (Doctype × List Char)
  | 0, _ => .error .unfinished
  | fuel + 1, text =>
    match skipSpace text with
    | '<' :: '?' :: rest => do prolog alone seen fuel (← skipInstruction rest)
    | '<' :: '!' :: '-' :: '-' :: rest => do prolog alone seen fuel (← skipComment rest)
    | '<' :: '!' :: rest =>
      match after? "DOCTYPE".toList rest, seen with
      | some rest, none => do
        let (d, rest) ← doctype alone rest
        prolog alone (some d) fuel rest
      | _, _ => .error .badDoctype
    | rest => .ok (seen.getD { alone := alone }, rest)

/-- The root element of a document. -/
def parse (bytes : List UInt8) : Except Fault Element := do
  let (declaration, text) ← readDocument bytes
  let (d, rest) ← prolog declaration.standalone none (text.length + 1) text
  Content.run d (allowance rest.length) ⟨[⟨⟨none, rest⟩, 0⟩], [], none⟩

end NumberingPlan.Xml
