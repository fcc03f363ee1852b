/-! Decimal numbers as they are written: digits and a power of ten. They stand
for binary floating numbers of 64 bits, so the one question about their size is
whether they round to a finite one. -/
namespace PluginBridge

/-- `digits * 10 ^ exponent`, with a sign. -/
structure Decimal where
  negative : Bool
  digits : Nat
  exponent : Int
deriving DecidableEq, Repr

namespace Decimal

def natOfDigits (digits : List Char) : Nat :=
  digits.foldl (fun total c => total * 10 + (c.toNat - '0'.toNat)) 0

def takeDigits (text : List Char) : List Char × List Char :=
  text.span Char.isDigit

/-- An exponent mark with its number, and the text after it. A mark without
digits is not one. -/
def exponentPart? : List Char → Option Int
  | [] => some 0
  | mark :: rest =>
    if mark = 'e' || mark = 'E' then
      let (negative, digits) := match rest with
        | '-' :: digits => (true, digits)
        | '+' :: digits => (false, digits)
        | digits => (false, digits)
      if digits.isEmpty || !digits.all Char.isDigit then none
      else some (if negative then -(natOfDigits digits : Int) else natOfDigits digits)
    else none

/-- Digits with at most one point among or beside them, then an optional
exponent. -/
def magnitude? (text : List Char) : Option (Nat × Int) :=
  let (whole, afterWhole) := takeDigits text
  let (fraction, afterFraction) := match afterWhole with
    | '.' :: rest => takeDigits rest
    | rest => ([], rest)
  if whole.isEmpty && fraction.isEmpty then none
  else (exponentPart? afterFraction).map fun exponent =>
    (natOfDigits (whole ++ fraction), exponent - fraction.length)

/-- The number a text spells, with an optional sign in front. -/
def ofText? : List Char → Option Decimal
  | '-' :: rest => (magnitude? rest).map fun (digits, exponent) => ⟨true, digits, exponent⟩
  | '+' :: rest => (magnitude? rest).map fun (digits, exponent) => ⟨false, digits, exponent⟩
  | rest => (magnitude? rest).map fun (digits, exponent) => ⟨false, digits, exponent⟩

/-- The power of ten just above the number. -/
def order (number : Decimal) : Int :=
  (Nat.toDigits 10 number.digits).length + number.exponent

/-- The least magnitude that rounds past the finite numbers: half a step above
the largest of them. -/
def overflow : Nat :=
  Nat.pow 2 1024 - Nat.pow 2 970

/-- Whether the nearest floating number is finite. -/
def roundsToFinite (number : Decimal) : Bool :=
  if number.digits = 0 || number.order < 300 then true
  else if number.order > 310 then false
  else if number.exponent < 0 then number.digits < overflow * Nat.pow 10 number.exponent.natAbs
  else number.digits * Nat.pow 10 number.exponent.natAbs < overflow

end Decimal
end PluginBridge
