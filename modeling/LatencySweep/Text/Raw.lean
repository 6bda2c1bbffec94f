import LatencySweep.Text.Utf8

/-
  Raw text, in which a character stands for one byte.

  Programs pass bytes around that need not spell a text. As
  raw text such bytes can be compared with words and cut
  like words. Every byte has its own character, so nothing
  is lost.

  Key definitions include:
    * `Bytes.toRaw`
    * `Bytes.ofRaw`
    * `rawOfText`
    * `textOfRaw`
-/

namespace LatencySweep

namespace Bytes

/- The raw text of bytes. -/
def toRaw (bytes : Bytes) : String :=
  String.ofList (bytes.map fun b => Char.ofNat b.toNat)

/- The bytes of a raw text. -/
def ofRaw (raw : String) : Bytes :=
  raw.toList.map fun c => UInt8.ofNat c.toNat

end Bytes

/- The raw text of a text. -/
def rawOfText (text : String) : String :=
  Bytes.toRaw (Bytes.ofText text)

/- The text that a raw text spells, malformed pieces
   replaced. -/
def textOfRaw (raw : String) : String :=
  Bytes.toTextLossy (Bytes.ofRaw raw)

example : rawOfText "é" = "Ã©" := by decide +kernel
example : textOfRaw "Ã©" = "é" := by cbv

end LatencySweep
