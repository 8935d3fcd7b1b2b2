/-!
# UTF-16 code units

Text travels as UTF-16: a character below U+10000 is one unit, every other is
a pair of surrogates.  A unit is a number below 65536.  `decode` refuses a
surrogate that is not part of a pair, so each text has one form.
-/

namespace PictureTransfer.Utf16

/-- A unit that opens a surrogate pair. -/
def isHigh (u : Nat) : Bool := 0xD800 ≤ u && u < 0xDC00

/-- A unit that closes a surrogate pair. -/
def isLow (u : Nat) : Bool := 0xDC00 ≤ u && u < 0xE000

/-- The units of one character. -/
def unitsOf (c : Char) : List Nat :=
  if c.toNat < 0x10000 then [c.toNat]
  else [0xD800 + (c.toNat - 0x10000) / 0x400, 0xDC00 + (c.toNat - 0x10000) % 0x400]

/-- The units of a text. -/
def encode (text : List Char) : List Nat := text.flatMap unitsOf

/-- The character that a surrogate pair stands for. -/
def paired (high low : Nat) : Char :=
  Char.ofNat (0x10000 + (high - 0xD800) * 0x400 + (low - 0xDC00))

/-- The text that the units spell, unless a surrogate stands alone. -/
def decode : List Nat → Option (List Char)
  | [] => some []
  | [u] => if isHigh u || isLow u then none else some [Char.ofNat u]
  | u :: v :: rest =>
      if isHigh u then
        if isLow v then (decode rest).map (paired u v :: ·) else none
      else if isLow u then none
      else (decode (v :: rest)).map (Char.ofNat u :: ·)

end PictureTransfer.Utf16
