import PluginBridge.Text.Digit

/-! Socket addresses: an IPv4 address, or an IPv6 address in square brackets,
and the number of a socket. An address is shown in its canonical spelling,
whatever spelling it was read from. -/
namespace PluginBridge.Host
open Text

inductive Address where
  /-- Four octets and the number of a socket. -/
  | v4 (octets : List Nat) (socket : Nat)
  /-- Eight groups of sixteen bits, a scope that is zero when none is named, and
  the number of a socket. -/
  | v6 (groups : List Nat) (scope socket : Nat)
deriving DecidableEq, Repr

namespace Address

/-- How a number in an address is written. -/
structure Numeral where
  base : Nat
  /-- The most digits it may have. -/
  longest : Option Nat
  /-- Its values are smaller. -/
  bound : Nat
  /-- Whether needless zeros may stand in front. -/
  padded : Bool
deriving DecidableEq, Repr

def octet : Numeral := ⟨10, some 3, 256, false⟩
def group : Numeral := ⟨16, some 4, 65536, true⟩
def socketNumber : Numeral := ⟨10, none, 65536, true⟩
def scopeNumber : Numeral := ⟨10, none, 4294967296, true⟩

/-- Reads a number from all the digits the text begins with. -/
def Numeral.read? (numeral : Numeral) (text : List Char) : Option (Nat × List Char) :=
  let digits := text.takeWhile (isDigitIn numeral.base)
  let number := numberIn numeral.base digits
  let tooLong := numeral.longest.any (· < digits.length)
  let needlessZero := !numeral.padded && digits.head? == some '0' && 1 < digits.length
  if digits.isEmpty || tooLong || needlessZero || numeral.bound ≤ number then none
  else some (number, text.dropWhile (isDigitIn numeral.base))

def skip? (expected : Char) : List Char → Option (List Char)
  | [] => none
  | c :: rest => if c = expected then some rest else none

/-- What follows the separator, which the first part of an address lacks. -/
def afterSeparator? (separator : Char) (isFirst : Bool) (text : List Char) : Option (List Char) :=
  if isFirst then some text else skip? separator text

/-- Octets with dots between them. -/
def octets? (isFirst : Bool) : Nat → List Char → Option (List Nat × List Char)
  | 0, text => some ([], text)
  | count + 1, text => do
    let (number, text) ← octet.read? (← afterSeparator? '.' isFirst text)
    let (others, text) ← octets? false count text
    return (number :: others, text)

/-- The two groups that four octets at the end of an IPv6 address stand for. -/
def groupsOfOctets? (isFirst : Bool) (text : List Char) : Option (List Nat × List Char) := do
  match ← octets? true 4 (← afterSeparator? ':' isFirst text) with
  | ([first, second, third, fourth], rest) =>
    return ([first * 256 + second, third * 256 + fourth], rest)
  | _ => none

/-- As many groups as the text has, up to a number of them, and whether octets
stood for the last two. -/
def groups (isFirst : Bool) : Nat → List Char → List Nat × Bool × List Char
  | 0, text => ([], false, text)
  | room + 1, text =>
    match if room = 0 then none else groupsOfOctets? isFirst text with
    | some (pair, rest) => (pair, true, rest)
    | none =>
      match (afterSeparator? ':' isFirst text).bind group.read? with
      | none => ([], false, text)
      | some (number, rest) =>
        let (others, fromOctets, rest) := groups false room rest
        (number :: others, fromOctets, rest)

/-- The eight groups of an IPv6 address. A double colon stands for at least one
group of zeros. -/
def allGroups? (text : List Char) : Option (List Nat × List Char) :=
  let (front, fromOctets, rest) := groups true 8 text
  if front.length = 8 then some (front, rest)
  else if fromOctets then none
  else do
    let rest ← skip? ':' (← skip? ':' rest)
    let (back, _, rest) := groups true (7 - front.length) rest
    return (front ++ List.replicate (8 - front.length - back.length) 0 ++ back, rest)

def socket? (text : List Char) : Option (Nat × List Char) := do
  socketNumber.read? (← skip? ':' text)

def v4? (text : List Char) : Option (Address × List Char) := do
  let (octets, rest) ← octets? true 4 text
  let (socket, rest) ← socket? rest
  return (.v4 octets socket, rest)

def v6? (text : List Char) : Option (Address × List Char) := do
  let (groups, rest) ← allGroups? (← skip? '[' text)
  let (scope, rest) := ((skip? '%' rest).bind scopeNumber.read?).getD (0, rest)
  let (socket, rest) ← socket? (← skip? ']' rest)
  return (.v6 groups scope socket, rest)

/-- The address that the whole text spells. -/
def parse? (text : String) : Option Address :=
  match v4? text.toList <|> v6? text.toList with
  | some (address, []) => some address
  | _ => none

def dotted (octets : List Nat) : String :=
  ".".intercalate (octets.map toString)

def hexadecimal (number : Nat) : String :=
  String.ofList (Nat.toDigits 16 number)

def coloned (groups : List Nat) : String :=
  ":".intercalate (groups.map hexadecimal)

/-- How many groups of zeros the list begins with. -/
def leadingZeros (groups : List Nat) : Nat :=
  (groups.takeWhile (· = 0)).length

/-- Where the longest run of zeros starts and how long it is, the first of equal
ones. -/
def longestZeros : List Nat → Nat × Nat
  | [] => (0, 0)
  | number :: rest =>
    let here := leadingZeros (number :: rest)
    let (start, length) := longestZeros rest
    if length ≤ here then (0, here) else (start + 1, length)

/-- An IPv6 address: its longest run of at least two zeros becomes a double
colon, and an IPv4 address inside it keeps its dots. -/
def spellGroups : List Nat → String
  | [0, 0, 0, 0, 0, 0xFFFF, upper, lower] =>
    "::ffff:" ++ dotted [upper / 256, upper % 256, lower / 256, lower % 256]
  | groups =>
    let (start, length) := longestZeros groups
    if length < 2 then coloned groups
    else coloned (groups.take start) ++ "::" ++ coloned (groups.drop (start + length))

def text : Address → String
  | .v4 octets socket => dotted octets ++ ":" ++ toString socket
  | .v6 groups scope socket =>
    let inScope := if scope = 0 then "" else "%" ++ toString scope
    "[" ++ spellGroups groups ++ inScope ++ "]:" ++ toString socket

end Address
end PluginBridge.Host
