import PluginBridge.Decimal

/-! Words that YAML readers would not take for text: nulls, truth values and
numbers. Numbers are hexadecimal, octal and binary whole numbers of at most 128
bits, and decimals that fit the floating range. -/
namespace PluginBridge.Document.Yaml

def isNullWord (word : String) : Bool :=
  ["", "null", "Null", "NULL", "~"].contains word

def isTruthWord (word : String) : Bool :=
  ["true", "True", "TRUE", "false", "False", "FALSE"].contains word

def isInfinityWord (word : String) : Bool :=
  [".inf", ".Inf", ".INF", "+.inf", "+.Inf", "+.INF", "-.inf", "-.Inf", "-.INF"].contains word

def isUndefinedWord (word : String) : Bool :=
  [".nan", ".NaN", ".NAN"].contains word

def digitValue? (base : Nat) (c : Char) : Option Nat :=
  let value? :=
    if c.isDigit then some (c.toNat - '0'.toNat)
    else if c.isLower then some (c.toNat - 'a'.toNat + 10)
    else if c.isUpper then some (c.toNat - 'A'.toNat + 10)
    else none
  value?.filter (· < base)

/-- The number spelt by the digits of a base, of which there is at least one. -/
def number? (base : Nat) (digits : List Char) : Option Nat :=
  if digits.isEmpty then none
  else digits.foldlM (fun total c => (digitValue? base c).map (total * base + ·)) 0

/-- A number behind the mark of its base. -/
def markedNumber? : List Char → Option Nat
  | '0' :: 'x' :: digits => number? 16 digits
  | '0' :: 'o' :: digits => number? 8 digits
  | '0' :: 'b' :: digits => number? 2 digits
  | _ => none

/-- Whether a word is a marked number that fits 128 bits with its sign. -/
def isMarkedWord : List Char → Bool
  | '-' :: rest => (markedNumber? rest).any (· ≤ Nat.pow 2 127)
  | '+' :: rest => (markedNumber? rest).any (· < Nat.pow 2 128)
  | rest => (markedNumber? rest).any (· < Nat.pow 2 128)

/-- Several digits that begin with a zero. Some readers take them for octal. -/
def isPaddedWord (word : List Char) : Bool :=
  let digits := match word with
    | '+' :: rest => rest
    | '-' :: rest => rest
    | rest => rest
  digits.length > 1 && digits.head? == some '0' && digits.all Char.isDigit

def isDecimalWord (word : List Char) : Bool :=
  (Decimal.ofText? word).any Decimal.roundsToFinite

/-- Whether a text would be taken for something else if it were written bare. -/
def isReserved (text : String) : Bool :=
  isNullWord text || isTruthWord text || isInfinityWord text || isUndefinedWord text ||
    isMarkedWord text.toList || isPaddedWord text.toList || isDecimalWord text.toList

end PluginBridge.Document.Yaml
