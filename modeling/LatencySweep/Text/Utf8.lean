/-
  Bytes and the text they spell in UTF-8.

  Strict decoding refuses a sequence that is not
  well-formed. Lossy decoding shows every longest piece
  that starts like a character but is not one as a single
  replacement character.

  Key definitions include:
    * `Bytes`
    * `Bytes.ofText`
    * `Bytes.toText?`
    * `Bytes.decodeFirst`
    * `Bytes.toTextLossy`
-/

namespace LatencySweep

/- The content of a file or of a stream. -/
abbrev Bytes := List UInt8

namespace Bytes

------------------------------------------------------------
-- Strict Decoding
------------------------------------------------------------

/- The bytes of a text. -/
def ofText (text : String) : Bytes :=
  text.toUTF8.data.toList

/- The text that the bytes spell, if they are well-formed. -/
def toText? (bytes : Bytes) : Option String :=
  String.fromUTF8? ⟨bytes.toArray⟩

theorem toText?_ofText (text : String) :
    toText? (ofText text) = some text := by
  have h : (⟨(ofText text).toArray⟩ : ByteArray) =
      text.toByteArray := by
    simp [ofText, String.toUTF8]
  unfold toText? String.fromUTF8?
  rw [h, dif_pos text.isValidUTF8]
  rfl

------------------------------------------------------------
-- Lossy Decoding
------------------------------------------------------------

/-
  What a first byte announces: how many bytes follow, the
  bounds of the next one, and its share of the code point.
-/
structure Lead where
  following : Nat
  low : UInt8
  high : UInt8
  value : Nat

/- The announcement of a byte that starts no single-byte
  character. -/
def lead? (byte : UInt8) : Option Lead :=
  if 0xC2 ≤ byte ∧ byte ≤ 0xDF then
    some ⟨1, 0x80, 0xBF, byte.toNat % 32⟩
  else if byte = 0xE0 then
    some ⟨2, 0xA0, 0xBF, byte.toNat % 16⟩
  else if byte = 0xED then
    some ⟨2, 0x80, 0x9F, byte.toNat % 16⟩
  else if 0xE1 ≤ byte ∧ byte ≤ 0xEF then
    some ⟨2, 0x80, 0xBF, byte.toNat % 16⟩
  else if byte = 0xF0 then
    some ⟨3, 0x90, 0xBF, byte.toNat % 8⟩
  else if byte = 0xF4 then
    some ⟨3, 0x80, 0x8F, byte.toNat % 8⟩
  else if 0xF1 ≤ byte ∧ byte ≤ 0xF3 then
    some ⟨3, 0x80, 0xBF, byte.toNat % 8⟩
  else none

/-
  Read the announced bytes, the first of them within the
  given bounds. A byte out of bounds is left for the rest.
-/
def takeFollowing :
    Nat → UInt8 → UInt8 → Nat → Bytes → Option Char × Bytes
  | 0, _, _, value, rest => (some (Char.ofNat value), rest)
  | _ + 1, _, _, _, [] => (none, [])
  | n + 1, low, high, value, byte :: rest =>
      if low ≤ byte ∧ byte ≤ high then
        takeFollowing n 0x80 0xBF
          (value * 64 + byte.toNat % 64) rest
      else (none, byte :: rest)

theorem length_takeFollowing_le
    (n : Nat) (low high : UInt8) (value : Nat)
    (rest : Bytes) :
    (takeFollowing n low high value rest).2.length ≤
      rest.length := by
  induction n generalizing low high value rest with
  | zero => simp [takeFollowing]
  | succ n ih =>
      cases rest with
      | nil => simp [takeFollowing]
      | cons byte rest =>
          unfold takeFollowing
          split
          · exact Nat.le_succ_of_le (ih ..)
          · exact Nat.le_refl _

/-
  The character at the front, or nothing if the bytes there
  are malformed, and the bytes behind it.
-/
def decodeFirst
    (byte : UInt8)
    (rest : Bytes) : Option Char × Bytes :=
  if byte < 0x80 then
    (some (Char.ofNat byte.toNat), rest)
  else
    match lead? byte with
    | none => (none, rest)
    | some lead =>
        takeFollowing lead.following lead.low lead.high
          lead.value rest

theorem length_decodeFirst_le
    (byte : UInt8)
    (rest : Bytes) :
    (decodeFirst byte rest).2.length ≤ rest.length := by
  unfold decodeFirst
  split
  · exact Nat.le_refl _
  · split
    · exact Nat.le_refl _
    · exact length_takeFollowing_le ..

/- The characters of the bytes, malformed pieces replaced. -/
def lossyChars : Bytes → List Char
  | [] => []
  | byte :: rest =>
      (decodeFirst byte rest).1.getD '\uFFFD' ::
        lossyChars (decodeFirst byte rest).2
termination_by bytes => bytes.length
decreasing_by
  have h := length_decodeFirst_le byte rest
  simp only [List.length_cons]
  omega

/- The text of the bytes, malformed pieces replaced. -/
def toTextLossy (bytes : Bytes) : String :=
  String.ofList (lossyChars bytes)

end Bytes

end LatencySweep
