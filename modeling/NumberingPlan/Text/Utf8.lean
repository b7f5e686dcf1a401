import NumberingPlan.Text.Numeral

/-! UTF-8. Writing is total; reading accepts exactly the shortest form of every scalar value and
says of any other bytes where the text stops being UTF-8 and why. -/
namespace NumberingPlan.Utf8

/-- The bytes of one character. -/
def encodeChar (c : Char) : List UInt8 :=
  let n := c.toNat
  if n < 0x80 then [n.toUInt8]
  else if n < 0x800 then [(0xC0 + n / 64).toUInt8, (0x80 + n % 64).toUInt8]
  else if n < 0x10000 then
    [(0xE0 + n / 4096).toUInt8, (0x80 + n / 64 % 64).toUInt8, (0x80 + n % 64).toUInt8]
  else
    [(0xF0 + n / 262144).toUInt8, (0x80 + n / 4096 % 64).toUInt8, (0x80 + n / 64 % 64).toUInt8,
      (0x80 + n % 64).toUInt8]

def encode (text : String) : List UInt8 := text.toList.flatMap encodeChar

/-- Why bytes are not UTF-8. -/
inductive Fault where
  | startByte
  | continuation
  | endOfData
  deriving DecidableEq, Repr

/-- The bytes at which a text stops being UTF-8: the first of them, how many, and its value. -/
structure Malformed where
  fault : Fault
  offset : Nat
  width : Nat
  first : UInt8
  deriving DecidableEq, Repr

def Fault.reason : Fault → String
  | .startByte => "invalid start byte"
  | .continuation => "invalid continuation byte"
  | .endOfData => "unexpected end of data"

/-- The wording of a malformed text. A single byte is shown, several are counted. -/
def Malformed.message (m : Malformed) : String :=
  if m.width == 1 then
    "'utf-8' codec can't decode byte 0x" ++ String.ofList (Text.hexDigits 2 m.first.toNat) ++
      s!" in position {m.offset}: " ++ m.fault.reason
  else
    s!"'utf-8' codec can't decode bytes in position {m.offset}-{m.offset + m.width - 1}: " ++
      m.fault.reason

/-- A character of which some bytes are read: its first byte, how many bytes are read and how many
are owed, the range of the next byte, and the bits so far. -/
structure Pending where
  first : UInt8
  taken : Nat
  owed : Nat
  low : Nat
  high : Nat
  bits : Nat

/-- What a first byte of a longer character promises. -/
def Pending.ofFirst? (b : UInt8) : Option Pending :=
  let n := b.toNat
  if 0xC2 ≤ n && n ≤ 0xDF then some ⟨b, 1, 1, 0x80, 0xBF, n - 0xC0⟩
  else if n == 0xE0 then some ⟨b, 1, 2, 0xA0, 0xBF, 0⟩
  else if n == 0xED then some ⟨b, 1, 2, 0x80, 0x9F, 0xD⟩
  else if 0xE1 ≤ n && n ≤ 0xEF then some ⟨b, 1, 2, 0x80, 0xBF, n - 0xE0⟩
  else if n == 0xF0 then some ⟨b, 1, 3, 0x90, 0xBF, 0⟩
  else if n == 0xF4 then some ⟨b, 1, 3, 0x80, 0x8F, 4⟩
  else if 0xF1 ≤ n && n ≤ 0xF3 then some ⟨b, 1, 3, 0x80, 0xBF, n - 0xF0⟩
  else none

/-- Reads bytes one at a time. `offset` is where the current character began, `pending` what is
read of it, and `done` the characters before it, last first. -/
def decodeFrom (offset : Nat) (pending : Option Pending) (done : List Char) :
    List UInt8 → Except Malformed (List Char)
  | [] =>
    match pending with
    | none => .ok done.reverse
    | some p => .error ⟨.endOfData, offset, p.taken, p.first⟩
  | b :: rest =>
    match pending with
    | none =>
      if b.toNat < 0x80 then decodeFrom (offset + 1) none (Char.ofNat b.toNat :: done) rest
      else
        match Pending.ofFirst? b with
        | some p => decodeFrom offset (some p) done rest
        | none => .error ⟨.startByte, offset, 1, b⟩
    | some p =>
      if p.low ≤ b.toNat && b.toNat ≤ p.high then
        let bits := p.bits * 64 + (b.toNat - 0x80)
        if p.owed == 1 then
          decodeFrom (offset + p.taken + 1) none (Char.ofNat bits :: done) rest
        else
          decodeFrom offset (some ⟨p.first, p.taken + 1, p.owed - 1, 0x80, 0xBF, bits⟩) done rest
      else .error ⟨.continuation, offset, p.taken, p.first⟩

def decode (bytes : List UInt8) : Except Malformed String :=
  (decodeFrom 0 none [] bytes).map String.ofList

end NumberingPlan.Utf8
