import PictureTransfer.Numeral

/-!
# Identifiers

An initiator and a responder each present sixteen bytes that identify them.
As text they are 32 hexadecimal digits, shown in lower case with dashes
between groups of 4, 2, 2, 2 and 6 bytes.  In text that is read, dashes mean
nothing wherever they stand.
-/

namespace PictureTransfer

/-- Sixteen bytes that identify a party. -/
structure Guid where
  bytes : Bytes
  length_eq : bytes.length = 16
  deriving DecidableEq

namespace Guid

/-- The identifier of all zeros. -/
def zero : Guid := ⟨List.replicate 16 0, List.length_replicate⟩

/-- The identifier with the given bytes, if there are sixteen. -/
def ofBytes? (bytes : Bytes) : Option Guid :=
  if h : bytes.length = 16 then some ⟨bytes, h⟩ else none

/-- The text of an identifier. -/
def text (guid : Guid) : String :=
  let group := fun start count => Hex.lowerDigits ((guid.bytes.drop start).take count)
  String.ofList <|
    group 0 4 ++ '-' :: group 4 2 ++ '-' :: group 6 2 ++ '-' :: group 8 2 ++ '-' :: group 10 6

/-- The identifier named as such. -/
def shown (guid : Guid) : String := "Guid(" ++ guid.text ++ ")"

/-- The byte that two bytes of a text write, as a number in base sixteen. -/
def byteOf? (a b : UInt8) : Option UInt8 := do
  let pair ← String.fromUTF8? ⟨#[a, b]⟩
  let value ← Numeral.natural? 16 pair.toList
  UInt8.ofNat <$> Numeral.below 256 value

/-- The bytes that pairs of bytes write. -/
def bytesOf? : Bytes → Option Bytes
  | [] => some []
  | a :: b :: rest => do
      let byte ← byteOf? a b
      let bytes ← bytesOf? rest
      pure (byte :: bytes)
  | [_] => none

/-- The bytes of a text in UTF-8, dashes aside. -/
def undashed (text : String) : Bytes := text.toUTF8.data.toList.filter (· ≠ 0x2D)

/-- The identifier that a text writes: sixteen pairs of bytes, dashes aside. -/
def ofText? (text : String) : Option Guid :=
  if (undashed text).length = 32 then do
    let bytes ← bytesOf? (undashed text)
    ofBytes? bytes
  else none

/-- What is said of a text that writes no identifier. -/
def invalidText (text : String) : String :=
  "Invalid GUID '" ++ text ++ "': expected 32 hex digits"

end Guid

end PictureTransfer
