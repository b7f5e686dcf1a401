import NumberingPlan.Text.Blank

/-! Environment files: one binding of a name to a value after another. A value stands as it is, or
in quotes with escapes, and may refer to other names. A line that is no binding is skipped. -/
namespace NumberingPlan.Settings

/-- Names and their values. -/
abbrev Environment := List (String × String)

/-- A binding in a file. The name is absent in a line that holds nothing, and the value where no
equals sign follows the name. -/
structure Binding where
  name : Option String
  value : Option String
  deriving DecidableEq, Repr

namespace Binding

def isLineEnd (c : Char) : Bool := c == '\n' || c == '\r'

/-- Goes past blanks within a line. -/
def skipInline (text : List Char) : List Char := text.dropWhile Text.isInlineBlank

/-- Goes past the rest of a line and one character that ends it. -/
def skipLine (text : List Char) : List Char := (text.dropWhile fun c => !isLineEnd c).drop 1

/-- Goes past the word that may stand before a binding, if blanks follow it. -/
def skipExport (text : List Char) : List Char :=
  match text with
  | 'e' :: 'x' :: 'p' :: 'o' :: 'r' :: 't' :: c :: rest =>
    if Text.isInlineBlank c then skipInline rest else text
  | _ => text

/-- A name, in single quotes or up to a blank, an equals sign or a comment. A comment has none. The
rest that is given where there is no name is where the fault is. -/
def nameAt (text : List Char) : Except (List Char) (Option String × List Char) :=
  match text with
  | '#' :: _ => .ok (none, text)
  | '\'' :: rest =>
    match rest.span (· != '\'') with
    | (c :: name, _ :: rest) => .ok (some (String.ofList (c :: name)), rest)
    | _ => .error text
  | text =>
    match text.span fun c => c != '=' && c != '#' && !Text.isBlank c with
    | ([], _) => .error text
    | (name, rest) => .ok (some (String.ofList name), rest)

/-- Characters up to the mark that closes a quotation, and the rest after it. A mark after a
backslash does not close it, but if none follows, the last such mark does. `done` is read, last
first, and `latest` is what the quotation is if it closes at that mark. -/
def quotation (mark : Char) (done : List Char) (latest : Option (List Char × List Char)) :
    List Char → Option (List Char × List Char)
  | [] => latest
  | [c] => if c == mark then some (done.reverse, []) else latest
  | c :: d :: rest =>
    if c == mark then some (done.reverse, d :: rest)
    else if c == '\\' && d == mark then
      quotation mark (d :: c :: done) (some ((c :: done).reverse, rest)) rest
    else quotation mark (c :: done) latest (d :: rest)

/-- What an escape letter stands for. In single quotes only the backslash and the quote are
escaped. -/
def escape? (single : Bool) (c : Char) : Option Char :=
  if c == '\\' || c == '\'' then some c
  else if single then none
  else
    match c with
    | '"' => some '"'
    | 'a' => some '\x07'
    | 'b' => some '\x08'
    | 'f' => some '\x0c'
    | 'n' => some '\n'
    | 'r' => some '\r'
    | 't' => some '\t'
    | 'v' => some '\x0b'
    | _ => none

/-- A text with its escapes resolved; other backslashes stay. -/
def unescape (single : Bool) (done : List Char) : List Char → List Char
  | [] => done.reverse
  | '\\' :: c :: rest =>
    match escape? single c with
    | some e => unescape single (e :: done) rest
    | none => unescape single ('\\' :: done) (c :: rest)
  | c :: rest => unescape single (c :: done) rest

/-- A text up to the first blanks that a comment follows. -/
def withoutComment (done : List Char) : List Char → List Char
  | [] => done.reverse
  | c :: rest =>
    if Text.isBlank c && (rest.dropWhile Text.isBlank).head? == some '#' then done.reverse
    else withoutComment (c :: done) rest

/-- A value after an equals sign. -/
def valueAt (text : List Char) : Except (List Char) (String × List Char) :=
  let quoted (mark : Char) (rest : List Char) : Except (List Char) (String × List Char) :=
    match quotation mark [] none rest with
    | some (value, rest) => .ok (String.ofList (unescape (mark == '\'') [] value), rest)
    | none => .error text
  match text with
  | '\'' :: rest => quoted '\'' rest
  | '"' :: rest => quoted '"' rest
  | text =>
    let (line, rest) := text.span fun c => !isLineEnd c
    .ok (String.ofList (Text.trimEnd (withoutComment [] line)), rest)

/-- The end of a line after a binding, with a comment before it or not. -/
def lineEnd (text : List Char) : Except (List Char) (List Char) :=
  let text := match skipInline text with
    | '#' :: rest => rest.dropWhile fun c => !isLineEnd c
    | _ => text
  match skipInline text with
  | [] => .ok []
  | '\r' :: '\n' :: rest => .ok rest
  | c :: rest => if isLineEnd c then .ok rest else .error text

/-- A binding that begins after blanks and line ends. -/
def read (text : List Char) : Except (List Char) (Binding × List Char) := do
  let (name, rest) ← nameAt (skipExport text)
  match skipInline rest with
  | '=' :: rest =>
    let (value, rest) ← valueAt (skipInline rest)
    return (⟨name, some value⟩, ← lineEnd rest)
  | rest => return (⟨name, none⟩, ← lineEnd rest)

/-- The bindings of a text, in order. What is no binding is skipped up to the end of its line. -/
def readAll : Nat → List Char → List Binding
  | 0, _ => []
  | fuel + 1, text =>
    match Text.trimStart text with
    | [] => []
    | text =>
      match read text with
      | .ok (binding, rest) => binding :: readAll fuel rest
      | .error rest => readAll fuel (skipLine rest)

end Binding

/-- The values that names stand for: those of the file win over those of the environment. A name
that the file gives no value stands for nothing. -/
structure Scope where
  outer : Environment
  file : List (String × Option String)

/-- What a name stands for, or the fallback if it stands for nothing known. -/
def Scope.resolve (scope : Scope) (name fallback : String) : String :=
  match scope.file.lookup name with
  | some value => value.getD ""
  | none => (scope.outer.lookup name).getD fallback

/-- A reference whose opening is read: its name, its fallback, and the rest after it. -/
def reference? (text : List Char) : Option (String × String × List Char) :=
  match text.span fun c => c != '\x7d' && c != ':' with
  | (name, '\x7d' :: rest) => some (String.ofList name, "", rest)
  | (name, ':' :: '-' :: rest) =>
    match rest.span (· != '\x7d') with
    | (fallback, _ :: rest) => some (String.ofList name, String.ofList fallback, rest)
    | _ => none
  | _ => none

/-- A value with its references resolved. The fuel counts characters. -/
def interpolate (scope : Scope) : Nat → List Char → List Char → List Char
  | 0, done, _ => done.reverse
  | _, done, [] => done.reverse
  | fuel + 1, done, c :: rest =>
    match c, rest with
    | '$', '\x7b' :: after =>
      match reference? after with
      | some (name, fallback, rest) =>
        interpolate scope fuel ((scope.resolve name fallback).toList.reverse ++ done) rest
      | none => interpolate scope fuel (c :: done) rest
    | _, _ => interpolate scope fuel (c :: done) rest

/-- The names of a file with their values, the last binding of a name first. -/
def resolveAll (outer : Environment) (bindings : List Binding) : List (String × Option String) :=
  bindings.foldl (fun file binding =>
    match binding.name with
    | none => file
    | some name =>
      let value := binding.value.map fun value =>
        String.ofList (interpolate ⟨outer, file⟩ (value.length + 1) [] value.toList)
      (name, value) :: file.filter (·.1 != name)) []

/-- The names of a text that have a value. -/
def parseEnvironment (outer : Environment) (text : List Char) : Environment :=
  (resolveAll outer (Binding.readAll (text.length + 1) text)).filterMap fun (name, value) =>
    value.map fun value => (name, value)

end NumberingPlan.Settings
