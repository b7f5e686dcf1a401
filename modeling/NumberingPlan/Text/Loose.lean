import NumberingPlan.Text.Utf8

/-! Texts whose code points need not be characters: a half of a surrogate pair may stand by itself.
UTF-8 has no bytes for a half, so what is spelled in UTF-8 may have no spelling. -/
namespace NumberingPlan

/-- A code point: a character, or the half of a surrogate pair with this place among the halves. -/
inductive CodePoint where
  | character (c : Char)
  | half (place : Fin 0x800)
  deriving DecidableEq, Repr

namespace CodePoint

/-- The code point of a number below 0x110000. -/
def ofNat (n : Nat) : CodePoint :=
  if n.isValidChar then character (Char.ofNat n) else half (Fin.ofNat 0x800 (n - 0xD800))

def isHalf : CodePoint → Bool
  | character _ => false
  | half _ => true

def character? : CodePoint → Option Char
  | character c => some c
  | half _ => none

end CodePoint

structure LooseText where
  points : List CodePoint
  deriving DecidableEq, Repr

namespace LooseText

/-- A text of characters alone. -/
def ofString (s : String) : LooseText := ⟨s.toList.map .character⟩

/-- The text, if it has no half. -/
def string? (t : LooseText) : Option String := (t.points.mapM CodePoint.character?).map String.ofList

/-- The text with a replacement character for every half. -/
def shown (t : LooseText) : String :=
  String.ofList (t.points.map fun point => point.character?.getD '\ufffd')

end LooseText

instance : Coe String LooseText := ⟨LooseText.ofString⟩

namespace Utf8

/-- The halves at which a text stops having a spelling: where they begin, how many stand together,
and the first of them. -/
structure Unencodable where
  offset : Nat
  width : Nat
  first : Fin 0x800
  deriving DecidableEq, Repr

/-- The wording of a text without a spelling. A single half is shown, several are counted. -/
def Unencodable.message (u : Unencodable) : String :=
  if u.width == 1 then
    "'utf-8' codec can't encode character '\\u" ++
      String.ofList (Text.hexDigits 4 (0xD800 + u.first)) ++
      s!"' in position {u.offset}: surrogates not allowed"
  else
    s!"'utf-8' codec can't encode characters in position {u.offset}-{u.offset + u.width - 1}: " ++
      "surrogates not allowed"

/-- The bytes of code points, of which so many stood before. -/
def spellFrom (offset : Nat) : List CodePoint → Except Unencodable (List UInt8)
  | [] => .ok []
  | .character c :: rest => (spellFrom (offset + 1) rest).map (encodeChar c ++ ·)
  | .half place :: rest => .error ⟨offset, 1 + (rest.takeWhile CodePoint.isHalf).length, place⟩

/-- Texts that have a spelling in UTF-8, or a first place at which they have none. -/
class Spelled (τ : Type) where
  spell : τ → Except Unencodable (List UInt8)

export Spelled (spell)

instance : Spelled String := ⟨fun s => .ok (encode s)⟩

instance : Spelled LooseText := ⟨fun t => spellFrom 0 t.points⟩

end Utf8

end NumberingPlan
