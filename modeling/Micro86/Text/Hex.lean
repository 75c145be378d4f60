/-!
Hexadecimal numerals: as few digits as the number needs, filled up with zeros to a least width.
-/

namespace Micro86.Hex

/-- The numeral of `n` in lower case, with at least `width` digits. -/
def digits (width n : Nat) : List Char :=
  (Nat.toDigits 16 n).leftpad width '0'

def lower (width n : Nat) : String :=
  String.ofList (digits width n)

def upper (width n : Nat) : String :=
  String.ofList ((digits width n).map Char.toUpper)

/-- The numeral marked as hexadecimal, as in `0x0100`. -/
def marked (width n : Nat) : String :=
  "0x" ++ lower width n

end Micro86.Hex
