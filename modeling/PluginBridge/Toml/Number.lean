import PluginBridge.Toml.Text
import PluginBridge.Value

/-! Bare words of TOML: truth values, whole numbers of 64 bits and numbers with
a fraction. Single underscores may stand between digits, and a decimal number
has no needless zero in front. -/
namespace PluginBridge.Toml
open Text

/-- The characters a number, a truth value or a date is made of. -/
def isWordCharacter (c : Char) : Bool :=
  c.isAlphanum || c == '_' || c == '+' || c == '-' || c == '.' || c == ':'

/-- Digits with single underscores between them. The flag tells whether a digit
has just been read. -/
def isGrouped (isDigit : Char → Bool) : Bool → List Char → Bool
  | afterDigit, [] => afterDigit
  | afterDigit, c :: rest =>
    if isDigit c then isGrouped isDigit true rest
    else c == '_' && afterDigit && isGrouped isDigit false rest

def withoutGroups (digits : List Char) : List Char :=
  digits.filter (· ≠ '_')

def isDecimalWhole (digits : List Char) : Bool :=
  isGrouped Char.isDigit false digits && (digits.head? != some '0' || digits.length == 1)

/-- A whole number that fits 64 bits with a sign. -/
def fitted (number : Int) : Option Value :=
  if -9223372036854775808 ≤ number && number ≤ 9223372036854775807 then some (.whole number)
  else none

def markedWhole? (base : Nat) (digits : List Char) : Option Value :=
  if isGrouped (isDigitIn base) false digits then fitted (numberIn base (withoutGroups digits))
  else none

def unsigned : List Char → Bool × List Char
  | '-' :: rest => (true, rest)
  | '+' :: rest => (false, rest)
  | rest => (false, rest)

def whole? : List Char → Option Value
  | '0' :: 'x' :: digits => markedWhole? 16 digits
  | '0' :: 'o' :: digits => markedWhole? 8 digits
  | '0' :: 'b' :: digits => markedWhole? 2 digits
  | word =>
    let (negative, digits) := unsigned word
    if isDecimalWhole digits then
      let number : Int := numberIn 10 (withoutGroups digits)
      fitted (if negative then -number else number)
    else none

def isExponent (digits : List Char) : Bool :=
  isGrouped Char.isDigit false (unsigned digits).2

/-- A fraction, an exponent or both, after the whole digits. -/
def isRealTail : List Char → Bool
  | '.' :: rest =>
    let fraction := rest.takeWhile fun c => c != 'e' && c != 'E'
    isGrouped Char.isDigit false fraction &&
      match rest.drop fraction.length with
      | [] => true
      | _ :: exponent => isExponent exponent
  | mark :: exponent => (mark == 'e' || mark == 'E') && isExponent exponent
  | [] => false

/-- A number with a fraction. One that is too large for the floating range is
refused, unless it is negative. -/
def real? (word : List Char) : Option Value :=
  let (negative, digits) := unsigned word
  if digits = ['i', 'n', 'f'] then some (.real (.infinite negative))
  else if digits = ['n', 'a', 'n'] then some (.real .undefined)
  else
    let whole := digits.takeWhile fun c => c.isDigit || c == '_'
    if isDecimalWhole whole && isRealTail (digits.drop whole.length) then
      match Decimal.ofText? (withoutGroups word) with
      | none => none
      | some number =>
        if number.roundsToFinite then some (.real (.finite number))
        else if negative then some (.real (.infinite true))
        else none
    else none

end PluginBridge.Toml
