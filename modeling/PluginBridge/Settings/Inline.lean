import PluginBridge.Settings.Layer
import PluginBridge.Text.Character
import PluginBridge.Text.Digit
import PluginBridge.Text.Offset

/-! Values written in one line, as environment variables hold them: truth
values, numbers, quoted texts, lists in brackets and tables in braces. A text
that is none of these stands for itself. Of the values that a table gives to one
key the last one counts, and the keys are sorted. -/
namespace PluginBridge.Settings.Inline

/-- The blanks between the parts of a value. -/
def isSpace (c : Char) : Bool :=
  c == ' ' || c == '\t' || c == '\n' || c == '\x0C' || c == '\r'

def isSeparator (c : Char) : Bool :=
  c == ',' || c == '\x7b' || c == '\x7d' || c == '[' || c == ']'

def isKeyCharacter (c : Char) : Bool :=
  c.isAlphanum || c == '_' || c == '-'

def skipSpace (text : List Char) : List Char :=
  text.dropWhile isSpace

/-- Whether a character may stand in a quoted text. Of the control characters
only the tab may. -/
def isQuotable (c : Char) : Bool :=
  c == '\t' || (0x20 ≤ c.toNat && c.toNat != 0x7F)

inductive Reading where
  | plain
  | escaped
  | coded (left code : Nat)
deriving DecidableEq, Repr

/-- The rest of a quoted text, and what follows the closing quote. -/
def quotedRest : Reading → List Char → Option (List Char × List Char)
  | _, [] => none
  | .plain, c :: rest =>
    if c = '"' then some ([], rest)
    else if c = '\\' then quotedRest .escaped rest
    else if isQuotable c then
      (quotedRest .plain rest).map fun (chars, after) => (c :: chars, after)
    else none
  | .escaped, c :: rest =>
    match [('b', '\x08'), ('t', '\t'), ('n', '\n'), ('f', '\x0C'), ('r', '\r'), ('"', '"'),
        ('\\', '\\')].lookup c with
    | some meant => (quotedRest .plain rest).map fun (chars, after) => (meant :: chars, after)
    | none =>
      if c = 'u' then quotedRest (.coded 4 0) rest
      else if c = 'U' then quotedRest (.coded 8 0) rest
      else none
  | .coded left code, c :: rest =>
    match Text.hexValue? c with
    | none => none
    | some value =>
      let code := code * 16 + value
      if 1 < left then quotedRest (.coded (left - 1) code) rest
      else if Text.CodePoint.isScalar code then
        (quotedRest .plain rest).map fun (chars, after) => (Char.ofNat code :: chars, after)
      else none

/-- A quoted text after its opening quote. At the first escape the text before it
is cut to as many bytes as it has characters. -/
def quoted? (text : List Char) : Option (List Char × List Char) :=
  let before := text.takeWhile fun c => c != '"' && c != '\\' && isQuotable c
  match text.drop before.length with
  | '\\' :: rest =>
    match Text.takeBytes? before.length before with
    | some kept => (quotedRest .escaped rest).map fun (chars, after) => (kept ++ chars, after)
    | none => none
  | _ => quotedRest .plain text

def natural? (digits : List Char) : Option Nat :=
  let digits := match digits with
    | '+' :: rest => rest
    | rest => rest
  if digits.isEmpty || !digits.all Char.isDigit then none
  else some (Decimal.natOfDigits digits)

/-- A whole number that fits 64 bits, with a sign only if it is below zero. -/
def whole? (word : List Char) : Option Int :=
  match (natural? word).filter (· < Nat.pow 2 64) with
  | some number => some number
  | none =>
    match word with
    | '-' :: digits =>
      if digits.head? = some '+' then none
      else ((natural? digits).filter (· ≤ Nat.pow 2 63)).map fun number => -(number : Int)
    | _ => none

def real? (word : List Char) : Option Real :=
  if word.contains '.' then (Decimal.ofText? word).map fun number =>
    if number.roundsToFinite then .finite number else .infinite number.negative
  else none

/-- What a word without quotes means. -/
def word (text : List Char) : Value :=
  let chars := Text.trim text
  match real? chars with
  | some number => .real number
  | none =>
    match whole? chars with
    | some number => .whole number
    | none => .text (String.ofList chars)

def bare (text : List Char) : Value × List Char :=
  match text with
  | 't' :: 'r' :: 'u' :: 'e' :: rest => (.flag true, rest)
  | 'f' :: 'a' :: 'l' :: 's' :: 'e' :: rest => (.flag false, rest)
  | _ =>
    let chars := text.takeWhile fun c => !isSeparator c
    (word chars, text.drop chars.length)

def key? : List Char → Option (String × List Char)
  | '"' :: rest => (quoted? rest).map fun (chars, after) => (String.ofList chars, after)
  | text =>
    let chars := text.takeWhile isKeyCharacter
    if chars.isEmpty then none else some (String.ofList chars, text.drop chars.length)

mutual

/-- A value with the blanks around it, and what follows. `fuel` bounds the steps
and is more than a text of its length can use. -/
def value? (fuel : Nat) (text : List Char) : Option (Value × List Char) :=
  match fuel with
  | 0 => none
  | fuel + 1 =>
    let read : Option (Value × List Char) :=
      match skipSpace text with
      | '"' :: rest =>
        (quoted? rest).map fun (chars, after) => (.text (String.ofList chars), after)
      | '[' :: rest => (items? fuel rest).map fun (items, after) => (.list items, after)
      | '\x7b' :: rest => (pairs? fuel [] rest).map fun (entries, after) => (.table entries, after)
      | '\x27' :: c :: '\x27' :: rest => some (.letter c, rest)
      | '\x27' :: _ => none
      | rest => some (bare rest)
    read.map fun (value, rest) => (value, skipSpace rest)

/-- Items up to the closing bracket. A comma may stand after the last one. -/
def items? (fuel : Nat) (text : List Char) : Option (List Value × List Char) :=
  match fuel with
  | 0 => none
  | fuel + 1 =>
    match text with
    | ']' :: rest => some ([], rest)
    | _ =>
      match value? fuel text with
      | some (item, ',' :: rest) =>
        (items? fuel rest).map fun (items, after) => (item :: items, after)
      | some (item, ']' :: rest) => some ([item], rest)
      | _ => none

/-- Pairs up to the closing brace, put into the entries read so far. A comma may
stand after the last one. -/
def pairs? (fuel : Nat) (entries : Table) (text : List Char) : Option (Table × List Char) :=
  match fuel with
  | 0 => none
  | fuel + 1 =>
    match text with
    | '\x7d' :: rest => some (entries, rest)
    | _ =>
      match key? (skipSpace text) with
      | none => none
      | some (key, rest) =>
        match skipSpace rest with
        | '=' :: rest =>
          match value? fuel rest with
          | some (value, ',' :: rest) => pairs? fuel (put key value entries) rest
          | some (value, '\x7d' :: rest) => some (put key value entries, rest)
          | _ => none
        | _ => none

end

/-- The value a text stands for. -/
def parse (text : String) : Value :=
  match value? (2 * text.length + 2) text.toList with
  | some (value, []) => value
  | _ => .text text

end PluginBridge.Settings.Inline
