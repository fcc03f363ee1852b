/-! Digits in bases up to sixteen, in small or capital letters. -/
namespace PluginBridge.Text

/-- The value of a hexadecimal digit. -/
def hexValue? (c : Char) : Option Nat :=
  if c.isDigit then some (c.toNat - '0'.toNat)
  else if 'a' ≤ c && c ≤ 'f' then some (c.toNat - 'a'.toNat + 10)
  else if 'A' ≤ c && c ≤ 'F' then some (c.toNat - 'A'.toNat + 10)
  else none

def isDigitIn (base : Nat) (c : Char) : Bool :=
  (hexValue? c).any (· < base)

/-- The number that digits of a base spell. -/
def numberIn (base : Nat) (digits : List Char) : Nat :=
  digits.foldl (fun total c => total * base + (hexValue? c).getD 0) 0

/-- The digit for a number below sixteen. -/
def hexDigit (number : Nat) : Char := (Nat.toDigits 16 number).headD '0'

/-- Bytes as pairs of hexadecimal digits. -/
def hexadecimal (bytes : ByteArray) : String :=
  String.ofList (bytes.toList.flatMap fun byte =>
    [hexDigit (byte.toNat / 16), hexDigit (byte.toNat % 16)])

def bytesOfPairs : List Char → List UInt8
  | upper :: lower :: rest => UInt8.ofNat (numberIn 16 [upper, lower]) :: bytesOfPairs rest
  | _ => []

/-- The bytes that pairs of hexadecimal digits spell. -/
def ofHexadecimal (text : String) : ByteArray :=
  ⟨(bytesOfPairs text.toList).toArray⟩

end PluginBridge.Text
