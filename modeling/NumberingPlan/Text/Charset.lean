import NumberingPlan.Text.Utf8

/-! Charsets: how the bytes of a text stand for characters. Beside UTF-8 there are charsets in which
every byte is a character by itself. Such a charset is told by where it differs from Latin-1, in
which a byte is the character of its own number. -/
namespace NumberingPlan.Text

/-- Texts that bytes from a number on stand for. The first text that reaches a byte counts, and the
replacement character is for a byte that stands for nothing. -/
abbrev Changes := List (Nat × String)

/-- The character of a byte in Latin-1 with changes. -/
def byteChar? (changes : Changes) (b : Nat) : Option Char :=
  let changed := changes.findSome? fun (first, text) =>
    if first ≤ b then text.toList[b - first]? else none
  match changed with
  | none => some (Char.ofNat b)
  | some c => if c == '\ufffd' then none else some c

inductive Charset where
  | utf8
  | single (changes : Changes)
  deriving DecidableEq, Repr

namespace Charset

/-- Characters with consecutive numbers. -/
def run (first count : Nat) : String :=
  String.ofList ((List.range' first count).map Char.ofNat)

/-- Bytes that stand for nothing. -/
def gap (count : Nat) : String := String.ofList (List.replicate count '\ufffd')

def latin1 : Charset := .single []

def ascii : Charset := .single [(0x80, gap 128)]

/-- The characters of bytes in a charset, if all of them stand for something. -/
def read? (charset : Charset) (bytes : List UInt8) : Option (List Char) :=
  match charset with
  | utf8 => (Utf8.decode bytes).toOption.map String.toList
  | single changes =>
    let chars := (Array.range 256).map (byteChar? changes)
    bytes.mapM fun b => (chars[b.toNat]?).join

/-- Why a name stands for no charset that bytes can be read in. -/
inductive Fault where
  | unknown (name : String)
  | notText (name : String)
  | multiByte
  | failed (name cause : String)
  | notAscii
  deriving DecidableEq, Repr

def Fault.message : Fault → String
  | unknown name => "unknown encoding: " ++ name
  | notText name =>
    "'" ++ name ++ "' is not a text encoding; use codecs.decode() to handle arbitrary codecs"
  | multiByte => "multi-byte encodings are not supported"
  | failed name cause =>
    "decoding with '" ++ name ++ "' codec failed (UnicodeError: " ++ cause ++ ")"
  | notAscii =>
    "'ascii' codec can't decode byte 0x80 in position 82: ordinal not in range(128)"

end Charset

end NumberingPlan.Text
