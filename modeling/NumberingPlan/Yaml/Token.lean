import NumberingPlan.Yaml.Fault
import NumberingPlan.Text.Loose

/-! Tokens of YAML text. Indentation becomes tokens that open and close blocks. Where a value mark
follows, what stands before it turns out to be a key, so the token of the key is put in front of it
afterwards: every place where a key may begin is remembered until it is too far away. -/
namespace NumberingPlan.Yaml

inductive Token where
  | streamEnd
  | directive (name : String) (arguments : List String)
  | documentStart
  | documentEnd
  | blockSequence
  | blockMapping
  | blockEnd
  | openSequence
  | openMapping
  | closeSequence
  | closeMapping
  | entry
  | flowEntry
  | key
  | value
  | alias (name : String)
  | anchor (name : String)
  | tag (handle : Option String) (suffix : String)
  | scalar (plain : Bool) (text : LooseText)
  deriving DecidableEq, Repr

/-- A place where a key may begin: how many tokens stand before it, whether it has to be a key, and
where it is. -/
structure KeyPlace where
  before : Nat
  required : Bool
  index : Nat
  line : Nat
  column : Nat

/-- The state of the reading of tokens. Tokens come last first. -/
structure Scan where
  rest : List Char
  index : Nat := 0
  line : Nat := 0
  column : Nat := 0
  level : Nat := 0
  indent : Int := -1
  indents : List Int := []
  keyAllowed : Bool := true
  keys : List (Nat × KeyPlace) := []
  tokens : List Token := []
  count : Nat := 0

/-- Whether a character ends a line. -/
def isBreak (c : Char) : Bool :=
  c == '\n' || c == '\r' || c == '\x85' || c == '\u2028' || c == '\u2029'

/-- Whether a character may stand in a document. -/
def isPrintable (c : Char) : Bool :=
  let n := c.toNat
  n == 0x9 || n == 0xA || n == 0xD || (0x20 ≤ n && n ≤ 0x7E) || n == 0x85 ||
    (0xA0 ≤ n && n != 0xFFFE && n != 0xFFFF)

/-- Whether a text is at its end or before a line end. -/
def atBreak : List Char → Bool
  | [] => true
  | c :: _ => isBreak c

/-- Whether a text is at its end or before a space or a line end. -/
def atSpace : List Char → Bool
  | [] => true
  | c :: _ => c == ' ' || isBreak c

/-- Whether a text is at its end or before a space, a tab or a line end. -/
def atBlank : List Char → Bool
  | [] => true
  | c :: _ => c == ' ' || c == '\t' || isBreak c

/-- Whether a text is before a mark that begins or ends a document. -/
def atSeparator : List Char → Bool
  | '-' :: '-' :: '-' :: rest => atBlank rest
  | '.' :: '.' :: '.' :: rest => atBlank rest
  | _ => false

/-- A character of anchors, handles and directive names. -/
def isWordChar (c : Char) : Bool := c.isAlphanum || c == '-' || c == '_'

/-- A character of tags. -/
def isUriChar (c : Char) : Bool :=
  c.isAlphanum || "-;/?:@&=+$,_.!~*'()[]%".toList.contains c

namespace Scan

/-- Goes past one character. -/
def next (s : Scan) : Scan :=
  match s.rest with
  | [] => s
  | c :: rest =>
    let newLine := c != '\r' && isBreak c || c == '\r' && rest.head? != some '\n'
    if newLine then { s with rest := rest, index := s.index + 1, line := s.line + 1, column := 0 }
    else if c == '\ufeff' then { s with rest := rest, index := s.index + 1 }
    else { s with rest := rest, index := s.index + 1, column := s.column + 1 }

/-- Goes past several characters. -/
def skip (s : Scan) : Nat → Scan
  | 0 => s
  | n + 1 => s.next.skip n

/-- Goes past the characters at the front that satisfy a condition, and gives them. -/
def takeWhile (s : Scan) (p : Char → Bool) : List Char × Scan :=
  let taken := s.rest.takeWhile p
  (taken, s.skip taken.length)

/-- Goes past spaces. -/
def skipSpaces (s : Scan) : Scan := (s.takeWhile (· == ' ')).2

/-- Goes past a comment, if one begins here. -/
def skipComment (s : Scan) : Scan :=
  if s.rest.head? == some '#' then (s.takeWhile fun c => !isBreak c).2 else s

/-- Goes past a line end, if there is one, and gives what it stands for. -/
def lineBreak (s : Scan) : List Char × Scan :=
  match s.rest with
  | '\r' :: '\n' :: _ => (['\n'], s.skip 2)
  | c :: _ =>
    if c == '\n' || c == '\r' || c == '\x85' then (['\n'], s.next)
    else if isBreak c then ([c], s.next)
    else ([], s)
  | [] => ([], s)

def emit (s : Scan) (token : Token) : Scan :=
  { s with tokens := token :: s.tokens, count := s.count + 1 }

/-- Puts a token after the first ones. -/
def insert (s : Scan) (before : Nat) (token : Token) : Scan :=
  let later := s.count - before
  { s with
    tokens := s.tokens.take later ++ token :: s.tokens.drop later
    count := s.count + 1 }

/-- Forgets key places that are too far away; one that has to be a key may not be. -/
def dropStale (s : Scan) : Except Fault Scan := do
  let isStale (k : KeyPlace) : Bool := k.line != s.line || 1024 < s.index - k.index
  if s.keys.any fun entry => isStale entry.2 && entry.2.required then throw .malformed
  return { s with keys := s.keys.filter fun entry => !isStale entry.2 }

/-- Forgets the key place of the current level, which may not have to be a key. -/
def dropKey (s : Scan) : Except Fault Scan :=
  match s.keys.lookup s.level with
  | none => .ok s
  | some k =>
    if k.required then .error .malformed
    else .ok { s with keys := s.keys.filter (·.1 != s.level) }

/-- Remembers that a key may begin here. -/
def saveKey (s : Scan) : Except Fault Scan := do
  if !s.keyAllowed then return s
  let s ← s.dropKey
  let required := s.level == 0 && s.indent == s.column
  return { s with keys := (s.level, ⟨s.count, required, s.index, s.line, s.column⟩) :: s.keys }

/-- Closes the blocks that are indented more than a column. -/
def closeBlocks (column : Int) : List Int → Scan → Scan
  | [], s => s
  | outer :: indents, s =>
    if s.indent > column then
      closeBlocks column indents { s.emit .blockEnd with indent := outer, indents := indents }
    else s

/-- Closes the blocks that are indented more than a column, unless brackets are open. -/
def unwind (s : Scan) (column : Int) : Scan :=
  if s.level == 0 then closeBlocks column s.indents s else s

/-- Opens a block at a column, if it is indented more than the current one. -/
def openBlock (s : Scan) (column : Nat) : Bool × Scan :=
  if s.indent < column then
    (true, { s with indents := s.indent :: s.indents, indent := column })
  else (false, s)

/-- Goes to the next token: past spaces, comments and line ends. -/
def toNext : Nat → Scan → Scan
  | 0, s => s
  | fuel + 1, s =>
    let s := s.skipSpaces.skipComment
    match s.lineBreak with
    | ([], s) => s
    | (_, s) => toNext fuel (if s.level == 0 then { s with keyAllowed := true } else s)

/-- A run of digits. -/
def directiveNumber (s : Scan) : Except Fault (String × Scan) :=
  let (digits, s) := s.takeWhile Char.isDigit
  if digits.isEmpty then .error .malformed
  else if Text.maxDigits < digits.length then .error (.tooManyDigits digits.length)
  else .ok (String.ofList digits, s)

/-- The handle of a tag: a mark, or a word between marks. -/
def tagHandle (s : Scan) : Except Fault (String × Scan) :=
  match s.rest with
  | '!' :: ' ' :: _ => .ok ("!", s.next)
  | '!' :: _ =>
    let (name, s) := s.next.takeWhile isWordChar
    match s.rest with
    | '!' :: _ => .ok (String.ofList ('!' :: (name ++ ['!'])), s.next)
    | _ => .error .malformed
  | _ => .error .malformed

/-- The text of a tag with its escaped bytes resolved. -/
def tagText : Nat → List Char → List UInt8 → List Char → Except Fault (List Char)
  | fuel, done, bytes, text =>
    let flushed : Except Fault (List Char) :=
      match Utf8.decode bytes.reverse with
      | .ok s => .ok (s.toList.reverse ++ done)
      | .error _ => .error .malformed
    match fuel, text with
    | fuel + 1, '%' :: a :: b :: rest =>
      match Text.hexValue? a, Text.hexValue? b with
      | some high, some low => tagText fuel done ((16 * high + low).toUInt8 :: bytes) rest
      | _, _ => .error .malformed
    | _, '%' :: _ => .error .malformed
    | fuel + 1, c :: rest => do tagText fuel (c :: (← flushed)) [] rest
    | _, _ => do return (← flushed).reverse

/-- The text of a tag, which may not be empty. -/
def tagUri (s : Scan) : Except Fault (String × Scan) := do
  let (chars, s) := s.takeWhile isUriChar
  if chars.isEmpty then throw .malformed
  return (String.ofList (← tagText chars.length [] [] chars), s)

/-- The rest of a line that may hold only a comment. -/
def ignoredLine (s : Scan) : Except Fault Scan :=
  let s := s.skipSpaces.skipComment
  if atBreak s.rest then .ok s.lineBreak.2 else .error .malformed

def directive (s : Scan) : Except Fault Scan := do
  let (name, s) := s.next.takeWhile isWordChar
  if name.isEmpty || !atSpace s.rest then throw .malformed
  let name := String.ofList name
  if name == "YAML" then
    let (major, s) ← s.skipSpaces.directiveNumber
    if s.rest.head? != some '.' then throw .malformed
    let (minor, s) ← s.next.directiveNumber
    if !atSpace s.rest then throw .malformed
    return (← s.ignoredLine).emit (.directive name [major, minor])
  else if name == "TAG" then
    let (handle, s) ← s.skipSpaces.tagHandle
    if s.rest.head? != some ' ' then throw .malformed
    let (start, s) ← s.skipSpaces.tagUri
    if !atSpace s.rest then throw .malformed
    return (← s.ignoredLine).emit (.directive name [handle, start])
  else
    let s := (s.takeWhile fun c => !isBreak c).2
    return (← s.ignoredLine).emit (.directive name [])

/-- The word of an anchor or an alias. -/
def anchorName (s : Scan) : Except Fault (String × Scan) :=
  let (name, s) := s.next.takeWhile isWordChar
  let ends := atBlank s.rest || s.rest.head?.any fun c => "?:,]\x7d%@`".toList.contains c
  if name.isEmpty || !ends then .error .malformed else .ok (String.ofList name, s)

def tag (s : Scan) : Except Fault Scan := do
  let done (handle : Option String) (suffix : String) (s : Scan) : Except Fault Scan :=
    if atSpace s.rest then .ok (s.emit (.tag handle suffix)) else .error .malformed
  match s.rest with
  | _ :: '<' :: _ =>
    let (suffix, s) ← (s.skip 2).tagUri
    if s.rest.head? != some '>' then throw .malformed
    done none suffix s.next
  | _ :: rest =>
    if atBlank rest then done none "!" s.next
    else if (rest.takeWhile fun c => c != ' ' && !isBreak c).contains '!' then
      let (handle, s) ← s.tagHandle
      let (suffix, s) ← s.tagUri
      done (some handle) suffix s
    else
      let (suffix, s) ← s.next.tagUri
      done (some "!") suffix s
  | [] => throw .malformed

/-- What follows the mark of a block scalar: whether line ends at its end are dropped or kept, and
how far it is indented. -/
def blockHeader (s : Scan) : Except Fault ((Option Bool × Option Nat) × Scan) := do
  let keep (c : Char) : Option Bool :=
    if c == '+' then some true else if c == '-' then some false else none
  let width (c : Char) : Except Fault (Option Nat) :=
    if c == '0' then .error .malformed
    else .ok (if c.isDigit then some (c.toNat - '0'.toNat) else none)
  let finish (header : Option Bool × Option Nat) (s : Scan) :
      Except Fault ((Option Bool × Option Nat) × Scan) :=
    if atSpace s.rest then .ok (header, s) else .error .malformed
  match s.rest with
  | [] => finish (none, none) s
  | first :: rest =>
    match keep first with
    | some kept =>
      match rest with
      | second :: _ =>
        match ← width second with
        | some n => finish (some kept, some n) (s.skip 2)
        | none => finish (some kept, none) s.next
      | [] => finish (some kept, none) s.next
    | none =>
      match ← width first with
      | none => finish (none, none) s
      | some n =>
        match rest.head?.bind keep with
        | some kept => finish (some kept, some n) (s.skip 2)
        | none => finish (none, some n) s.next

/-- Empty lines before the first line of a block scalar, and the greatest indentation among
them. -/
def leadingBreaks : Nat → List Char → Nat → Scan → List Char × Nat × Scan
  | 0, done, deepest, s => (done, deepest, s)
  | fuel + 1, done, deepest, s =>
    match s.rest with
    | c :: _ =>
      if c == ' ' then
        let s := s.next
        leadingBreaks fuel done (max deepest s.column) s
      else if isBreak c then
        let (mark, s) := s.lineBreak
        leadingBreaks fuel (done ++ mark) deepest s
      else (done, deepest, s)
    | [] => (done, deepest, s)

/-- Goes past spaces up to a column. -/
def skipTo (column : Nat) (s : Scan) : Scan :=
  s.skip ((s.rest.take (column - s.column)).takeWhile (· == ' ')).length

/-- Empty lines between lines of a block scalar. -/
def innerBreaks (column : Nat) : Nat → List Char → Scan → List Char × Scan
  | 0, done, s => (done, s)
  | fuel + 1, done, s =>
    let s := skipTo column s
    match s.lineBreak with
    | ([], s) => (done, s)
    | (mark, s) => innerBreaks column fuel (done ++ mark) s

/-- The lines of a block scalar. `done` is the text so far, last character first, and `breaks` the
empty lines after it. The text, the last line end and the empty lines after it are given. -/
def blockLines (folded : Bool) (column : Nat) :
    Nat → List Char → List Char → List Char → Scan → List Char × List Char × List Char × Scan
  | 0, done, mark, breaks, s => (done, mark, breaks, s)
  | fuel + 1, done, mark, breaks, s =>
    if s.column == column && !s.rest.isEmpty then
      let begins := !(s.rest.head?.any fun c => c == ' ' || c == '\t')
      let (text, s) := s.takeWhile fun c => !isBreak c
      let done := text.reverse ++ (breaks.reverse ++ done)
      let (mark, s) := s.lineBreak
      let (breaks, s) := innerBreaks column (s.rest.length + 1) [] s
      if s.column == column && !s.rest.isEmpty then
        let joined := folded && mark == ['\n'] && begins &&
          !(s.rest.head?.any fun c => c == ' ' || c == '\t')
        let done :=
          if joined then (if breaks.isEmpty then ' ' :: done else done) else mark.reverse ++ done
        blockLines folded column fuel done mark breaks s
      else (done, mark, breaks, s)
    else (done, mark, breaks, s)

def blockScalar (s : Scan) (folded : Bool) : Except Fault Scan := do
  let ((keep, width), s) ← s.next.blockHeader
  let s ← s.ignoredLine
  let least := (max 1 (s.indent + 1)).toNat
  let (column, breaks, s) := match width with
    | none =>
      let (breaks, deepest, s) := leadingBreaks (s.rest.length + 1) [] 0 s
      (max least deepest, breaks, s)
    | some n =>
      let column := least + n - 1
      let (breaks, s) := innerBreaks column (s.rest.length + 1) [] s
      (column, breaks, s)
  let (done, mark, breaks, s) := blockLines folded column (s.rest.length + 1) [] [] breaks s
  let done := if keep != some false then mark.reverse ++ done else done
  let done := if keep == some true then breaks.reverse ++ done else done
  return s.emit (.scalar false (String.ofList done.reverse))

/-- What an escape letter stands for. -/
def escape? (c : Char) : Option Char :=
  match c with
  | '0' => some '\x00'
  | 'a' => some '\x07'
  | 'b' => some '\x08'
  | 't' | '\t' => some '\t'
  | 'n' => some '\n'
  | 'v' => some '\x0b'
  | 'f' => some '\x0c'
  | 'r' => some '\r'
  | 'e' => some '\x1b'
  | ' ' => some ' '
  | '"' => some '"'
  | '\\' => some '\\'
  | '/' => some '/'
  | 'N' => some '\x85'
  | '_' => some '\xa0'
  | 'L' => some '\u2028'
  | 'P' => some '\u2029'
  | _ => none

/-- How many digits follow an escape letter. -/
def escapeWidth? (c : Char) : Option Nat :=
  match c with
  | 'x' => some 2
  | 'u' => some 4
  | 'U' => some 8
  | _ => none

/-- The code point of a number. -/
def codePointOf (n : Nat) : Except Fault CodePoint :=
  if 0x80000000 ≤ n then .error .characterTooLarge
  else if 0x110000 ≤ n then .error .characterRange
  else .ok (.ofNat n)

/-- Empty lines in a quoted scalar. -/
def quotedBreaks : Nat → List Char → Scan → Except Fault (List Char × Scan)
  | 0, done, s => .ok (done, s)
  | fuel + 1, done, s =>
    if atSeparator s.rest then .error .malformed
    else
      let s := (s.takeWhile fun c => c == ' ' || c == '\t').2
      match s.lineBreak with
      | ([], s) => .ok (done, s)
      | (mark, s) => quotedBreaks fuel (done ++ mark) s

/-- A quoted scalar whose opening mark is read. `done` is its text so far, last character first. An
escape may stand for half of a surrogate pair, and two of them make no character together. -/
def quotedText (double : Bool) : Nat → List CodePoint → Scan → Except Fault (LooseText × Scan)
  | 0, _, _ => .error .malformed
  | fuel + 1, done, s =>
    match s.rest with
    | [] => .error .malformed
    | '\'' :: rest =>
      if double then quotedText double fuel (.character '\'' :: done) s.next
      else if rest.head? == some '\'' then quotedText double fuel (.character '\'' :: done) (s.skip 2)
      else .ok (⟨done.reverse⟩, s.next)
    | '"' :: _ =>
      if double then .ok (⟨done.reverse⟩, s.next) else quotedText double fuel (.character '"' :: done) s.next
    | '\\' :: rest =>
      if !double then quotedText double fuel (.character '\\' :: done) s.next
      else
        match rest with
        | [] => .error .malformed
        | letter :: rest =>
          match escape? letter, escapeWidth? letter with
          | some c, _ => quotedText double fuel (.character c :: done) (s.skip 2)
          | none, some width => do
            let digits := rest.take width
            if digits.length < width || !digits.all fun d => (Text.hexValue? d).isSome then
              throw .malformed
            let n := digits.foldl (fun n d => 16 * n + (Text.hexValue? d).getD 0) 0
            quotedText double fuel ((← codePointOf n) :: done) (s.skip (2 + width))
          | none, none =>
            if isBreak letter then do
              let (breaks, s) ← quotedBreaks (rest.length + 1) [] s.next.lineBreak.2
              quotedText double fuel (breaks.reverse.map .character ++ done) s
            else .error .malformed
    | c :: _ =>
      if c == ' ' || c == '\t' || isBreak c then do
        let (spaces, s) := s.takeWhile fun c => c == ' ' || c == '\t'
        if s.rest.isEmpty then throw .malformed
        match s.lineBreak with
        | ([], s) => quotedText double fuel (spaces.reverse.map .character ++ done) s
        | (mark, s) =>
          let (breaks, s) ← quotedBreaks (s.rest.length + 1) [] s
          let joint := if mark != ['\n'] then mark else if breaks.isEmpty then [' '] else []
          quotedText double fuel ((breaks.reverse ++ joint).map .character ++ done) s
      else quotedText double fuel (.character c :: done) s.next

/-- Empty lines in a plain scalar, unless a document ends there. -/
def plainBreaks : Nat → List Char → Scan → Option (List Char) × Scan
  | 0, done, s => (some done, s)
  | fuel + 1, done, s =>
    let s := s.skipSpaces
    match s.lineBreak with
    | ([], s) => (some done, s)
    | (mark, s) =>
      if atSeparator s.rest then (none, s) else plainBreaks fuel (done ++ mark) s

/-- The space after a piece of a plain scalar, as it counts if another piece follows. -/
def plainSpace (s : Scan) : List Char × Scan :=
  let (spaces, s) := s.takeWhile (· == ' ')
  match s.lineBreak with
  | ([], s) => (spaces, s)
  | (mark, s) =>
    let s := { s with keyAllowed := true }
    if atSeparator s.rest then ([], s)
    else
      match plainBreaks (s.rest.length + 1) [] s with
      | (none, s) => ([], s)
      | (some breaks, s) =>
        let joint := if mark != ['\n'] then mark else if breaks.isEmpty then [' '] else []
        (joint ++ breaks, s)

/-- How many characters a piece of a plain scalar has. -/
def pieceLength (flow : Bool) : List Char → Nat
  | [] => 0
  | c :: rest =>
    if c == ' ' || c == '\t' || isBreak c then 0
    else if c == ':' && (atBlank rest ||
        flow && rest.head?.any fun d => ",[]\x7b\x7d".toList.contains d) then 0
    else if flow && ",?[]\x7b\x7d".toList.contains c then 0
    else pieceLength flow rest + 1

/-- The pieces of a plain scalar. `done` is its text so far, last character first, and `spaces` the
space after it. -/
def plainText (indent : Int) : Nat → List Char → List Char → Scan → List Char × Scan
  | 0, done, _, s => (done, s)
  | fuel + 1, done, spaces, s =>
    if s.rest.head? == some '#' then (done, s)
    else
      match pieceLength (0 < s.level) s.rest with
      | 0 => (done, s)
      | length =>
        let done := (s.rest.take length).reverse ++ (spaces.reverse ++ done)
        let (spaces, s) := ({ s with keyAllowed := false }.skip length).plainSpace
        if spaces.isEmpty || s.rest.head? == some '#' || (s.level == 0 && s.column < indent) then
          (done, s)
        else plainText indent fuel done spaces s

/-- Brackets open. -/
def openFlow (s : Scan) (token : Token) : Except Fault Scan := do
  let s ← s.saveKey
  return { s with level := s.level + 1, keyAllowed := true }.next.emit token

/-- Brackets close. -/
def closeFlow (s : Scan) (token : Token) : Except Fault Scan := do
  let s ← s.dropKey
  return { s with level := s.level - 1, keyAllowed := false }.next.emit token

/-- A mark that begins or ends a document. -/
def separator (s : Scan) (token : Token) : Except Fault Scan := do
  let s ← (s.unwind (-1)).dropKey
  return ({ s with keyAllowed := false }.skip 3).emit token

/-- The mark of an item of a block. -/
def blockEntry (s : Scan) : Except Fault Scan := do
  let s ← if s.level == 0 then
      if !s.keyAllowed then throw .malformed
      else
        match s.openBlock s.column with
        | (true, s) => pure (s.emit .blockSequence)
        | (false, s) => pure s
    else pure s
  return (← { s with keyAllowed := true }.dropKey).next.emit .entry

def keyMark (s : Scan) : Except Fault Scan := do
  let s ← if s.level == 0 then
      if !s.keyAllowed then throw .malformed
      else
        match s.openBlock s.column with
        | (true, s) => pure (s.emit .blockMapping)
        | (false, s) => pure s
    else pure s
  return (← { s with keyAllowed := s.level == 0 }.dropKey).next.emit .key

/-- The mark of a value. What stands at the key place of this level is the key. -/
def valueMark (s : Scan) : Except Fault Scan := do
  match s.keys.lookup s.level with
  | some k =>
    let s := { s with keys := s.keys.filter (·.1 != s.level) }
    let s := s.insert k.before .key
    let s := if s.level == 0 then
        match s.openBlock k.column with
        | (true, s) => s.insert k.before .blockMapping
        | (false, s) => s
      else s
    return { s with keyAllowed := false }.next.emit .value
  | none =>
    let s ← if s.level == 0 then
        if !s.keyAllowed then throw .malformed
        else
          match s.openBlock s.column with
          | (true, s) => pure (s.emit .blockMapping)
          | (false, s) => pure s
      else pure s
    return (← { s with keyAllowed := s.level == 0 }.dropKey).next.emit .value

/-- Something that may be a key begins here, and no other key may begin before it ends. -/
def beginKey (s : Scan) : Except Fault Scan := do return { (← s.saveKey) with keyAllowed := false }

/-- A block scalar begins here; a key may follow it. -/
def beginBlockScalar (s : Scan) (folded : Bool) : Except Fault Scan := do
  (← { s with keyAllowed := true }.dropKey).blockScalar folded

def quotedScalar (s : Scan) (double : Bool) : Except Fault Scan := do
  let s ← s.beginKey
  let (text, s) ← quotedText double (s.rest.length + 1) [] s.next
  return s.emit (.scalar false text)

def plainScalar (s : Scan) : Except Fault Scan := do
  let s ← s.beginKey
  let (done, s) := plainText (s.indent + 1) (s.rest.length + 1) [] [] s
  return s.emit (.scalar true (String.ofList done.reverse))

/-- Whether a plain scalar may begin with a character, given what follows it. -/
def beginsPlain (flow : Bool) (c : Char) (rest : List Char) : Bool :=
  if c == '-' then !atBlank rest
  else if c == '?' || c == ':' then !flow && !atBlank rest
  else !"-?:,[]\x7b\x7d#&*!|>'\"%@`".toList.contains c && c != '\t' && c != ' ' && !isBreak c

/-- Reads the next token, and perhaps tokens of blocks before it. After the last one there is no
next state. -/
def token (s : Scan) : Except Fault (Scan × Bool) := do
  let start := if s.index == 0 && s.rest.head? == some '\ufeff' then s.next else s
  let s ← (toNext (start.rest.length + 1) start).dropStale
  let s := s.unwind s.column
  let flow := 0 < s.level
  let more (next : Except Fault Scan) : Except Fault (Scan × Bool) := do return (← next, true)
  match s.rest with
  | [] =>
    let s ← (s.unwind (-1)).dropKey
    return (s.emit .streamEnd, false)
  | c :: rest =>
    if c == '%' && s.column == 0 then
      more (do ({ (← (s.unwind (-1)).dropKey) with keyAllowed := false }).directive)
    else if s.column == 0 && c == '-' && atSeparator s.rest then more (s.separator .documentStart)
    else if s.column == 0 && c == '.' && atSeparator s.rest then more (s.separator .documentEnd)
    else if c == '[' then more (s.openFlow .openSequence)
    else if c == '\x7b' then more (s.openFlow .openMapping)
    else if c == ']' then more (s.closeFlow .closeSequence)
    else if c == '\x7d' then more (s.closeFlow .closeMapping)
    else if c == ',' then
      more (do return (← { s with keyAllowed := true }.dropKey).next.emit .flowEntry)
    else if c == '-' && atBlank rest then more s.blockEntry
    else if c == '?' && (flow || atBlank rest) then more s.keyMark
    else if c == ':' && (flow || atBlank rest) then more s.valueMark
    else if c == '*' then more (do
      let (name, s) ← (← s.beginKey).anchorName
      return s.emit (.alias name))
    else if c == '&' then more (do
      let (name, s) ← (← s.beginKey).anchorName
      return s.emit (.anchor name))
    else if c == '!' then more (do (← s.beginKey).tag)
    else if c == '|' && !flow then more (s.beginBlockScalar false)
    else if c == '>' && !flow then more (s.beginBlockScalar true)
    else if c == '\'' then more (s.quotedScalar false)
    else if c == '"' then more (s.quotedScalar true)
    else if beginsPlain flow c rest then more s.plainScalar
    else throw .malformed

/-- Reads tokens to the end. Every round takes at least one character. -/
def run : Nat → Scan → Except Fault (List Token)
  | 0, _ => .error .malformed
  | fuel + 1, s => do
    let (s, more) ← s.token
    if more then run fuel s else return s.tokens.reverse

end Scan

def tokens (text : List Char) : Except Fault (List Token) :=
  if text.all isPrintable then Scan.run (text.length + 2) { rest := text }
  else .error .malformed

end NumberingPlan.Yaml
