import NumberingPlan.Proofs.Utf8Spelling
import NumberingPlan.Xml.Declaration

/-! The charsets that documents ask for. They agree on ASCII, but for the tilde that begins an escape in
one of them. So the declaration that names a charset says the same before and after the charset is known,
and a document of ASCII is read as it stands whatever charset it names. -/
namespace NumberingPlan

open Xml (ofBytes)

variable {bytes : List UInt8}

namespace Text

variable {charset : Charset} {changes : Changes} {name : String}

/-- Bytes that every charset reads alike: those of ASCII before the tilde. -/
def Common (bytes : List UInt8) : Prop := ∀ b ∈ bytes, b.toNat < 0x7E

/-- Whether a charset of single bytes changes none before the tilde. -/
def Charset.changesLate : Charset → Bool
  | utf8 => false
  | single changes => changes.all fun change => 0x7E ≤ change.1

/-- A byte before all changes stands for the character of its own number. -/
private theorem byteChar?_of_lt {b : Nat} (before : ∀ change ∈ changes, b < change.1) :
    byteChar? changes b = some (Char.ofNat b) := by
  have unchanged (change : Nat × String) (member : change ∈ changes) :
      (if change.1 ≤ b then change.2.toList[b - change.1]? else none) = none :=
    if_neg (Nat.not_le.mpr (before change member))
  simp only [byteChar?]
  rw [List.findSome?_eq_none_iff.mpr unchanged]

private theorem read?_single (late : ∀ change ∈ changes, 0x7E ≤ change.1) (common : Common bytes) :
    (Charset.single changes).read? bytes = some (ofBytes bytes) := by
  have each (b : UInt8) (member : b ∈ bytes) :
      (((Array.range 256).map (byteChar? changes))[b.toNat]?).join = some (Char.ofNat b.toNat) := by
    have small := common b member
    have kept : byteChar? changes b.toNat = some (Char.ofNat b.toNat) :=
      byteChar?_of_lt fun change among => Nat.lt_of_lt_of_le small (late change among)
    simp [b.toNat_lt, kept]
  simp only [Charset.read?]
  clear common
  induction bytes with
  | nil => rfl
  | cons b bytes ih =>
    obtain ⟨here, there⟩ := List.forall_mem_cons.mp each
    rw [List.mapM_cons, here, ih there]
    rfl

private theorem read?_of_changesLate (late : charset.changesLate = true) (common : Common bytes) :
    charset.read? bytes = some (ofBytes bytes) := by
  cases charset with
  | utf8 => cases late
  | single changes => exact read?_single (by simpa [Charset.changesLate] using late) common

private theorem read?_utf8 (common : Common bytes) : Charset.utf8.read? bytes = some (ofBytes bytes) := by
  have ascii (b : UInt8) (member : b ∈ bytes) : b.toNat < 0x80 := Nat.lt_trans (common b member) (by decide)
  have spelled : bytes = Utf8.encode (String.ofList (ofBytes bytes)) := (Utf8.encode_of_ascii ascii).symm
  rw [Charset.read?, Utf8.decode_eq_ok_iff.mpr spelled]
  exact congrArg some String.toList_ofList

/-- The tables of all codecs, gone through once. -/
theorem codecs_change_late : ∀ entry ∈ Codec.charsets, entry.1.changesLate = true :=
  List.all_eq_true.mp rfl

private theorem charset_of_codec (named : Codec.ofName? name = some (.charset charset)) :
    ∃ names, (charset, names) ∈ Codec.charsets := by
  obtain ⟨entry, found, same⟩ := Option.map_eq_some_iff.mp named
  obtain ⟨codec, names⟩ := entry
  cases same
  have member := List.mem_of_find?_eq_some found
  exact ⟨names, by simpa [Codec.all] using member⟩

end Text

namespace Xml

open Text (Common)

/-- Whatever charset a name stands for, the bytes of ASCII before the tilde are themselves in it. -/
theorem read?_of_common {name : String} {charset : Text.Charset} (named : charsetOf name = .ok charset)
    (common : Common bytes) : charset.read? bytes = some (ofBytes bytes) := by
  unfold charsetOf at named
  split at named
  · cases named
    exact Text.read?_utf8 common
  · cases named
  · cases named
  · cases named
  · split at named <;> cases named
    rename_i codec
    obtain ⟨names, member⟩ := Text.charset_of_codec codec
    exact Text.read?_of_changesLate (Text.codecs_change_late _ member) common

/-- A document of the bytes that all charsets read alike is read as it stands, whatever charset of single
bytes its declaration names. -/
theorem readBytes_of_common {declaration : Declaration} {rest : List Char} (common : Common bytes)
    (declared : splitDeclaration (ofBytes bytes) = .ok (declaration, rest))
    (known : ∀ name ∈ declaration.encoding, ∃ charset, charsetOf name = .ok charset) :
    readBytes bytes = .ok (declaration, rest) := by
  unfold readBytes
  rw [declared]
  cases asked : declaration.encoding with
  | none =>
    simp only [bind, Except.bind, pure, Except.pure, asked]
    rw [Text.read?_utf8 common]
    exact declared
  | some name =>
    obtain ⟨charset, named⟩ := known name asked
    simp only [bind, Except.bind, asked, named]
    rw [read?_of_common named common]
    exact declared

end Xml

end NumberingPlan
