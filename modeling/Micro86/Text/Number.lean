/-!
Numbers in texts: whole ones, which may have a plus sign and have to fit in 64 bits, and others, of
which only the form is told.
-/

namespace Micro86

inductive NumberError where
  | empty
  | invalidDigit
  | tooLarge
  deriving DecidableEq, Repr

def NumberError.message : NumberError → String
  | .empty => "cannot parse integer from empty string"
  | .invalidDigit => "invalid digit found in string"
  | .tooLarge => "number too large to fit in target type"

namespace Number

/-- Reads digits after a number read so far. -/
def readDigits (n : Nat) : List Char → Except NumberError UInt64
  | [] => .ok n.toUInt64
  | c :: cs =>
    if c.isDigit then
      let n := 10 * n + (c.toNat - '0'.toNat)
      if n < UInt64.size then readDigits n cs else .error .tooLarge
    else .error .invalidDigit

def read : List Char → Except NumberError UInt64
  | [] => .error .empty
  | ['+'] => .error .invalidDigit
  | '+' :: cs | cs => readDigits 0 cs

/-- What comes after a sign, if there is one. -/
def unsigned : List Char → List Char
  | '+' :: cs | '-' :: cs | cs => cs

def isDigits (cs : List Char) : Bool :=
  !cs.isEmpty && cs.all Char.isDigit

/-- Whether this is nothing, or an exponent after its letter. -/
def isExponent : List Char → Bool
  | [] => true
  | c :: cs => (c == 'e' || c == 'E') && isDigits (unsigned cs)

/-- Digits, a point and digits, one of them left out perhaps, and an exponent perhaps. -/
def isPositional (cs : List Char) : Bool :=
  let whole := cs.takeWhile Char.isDigit
  match cs.dropWhile Char.isDigit with
  | '.' :: cs =>
    let fraction := cs.takeWhile Char.isDigit
    !(whole.isEmpty && fraction.isEmpty) && isExponent (cs.dropWhile Char.isDigit)
  | cs => !whole.isEmpty && isExponent cs

/-- Whether this is a number with a sign, a point or an exponent, infinite or undefined perhaps. -/
def isReal (cs : List Char) : Bool :=
  let cs := unsigned cs
  ["inf", "infinity", "nan"].contains (String.ofList (cs.map Char.toLower)) || isPositional cs

end Number

end Micro86
