import PluginBridge.Text.Character

/-! Quoted text, as diagnostics and string literals show it: between double
quotes, with a backslash before what would end or distort the literal and a code
point number for what does not show. -/
namespace PluginBridge.Text

/-- The digits of a number in base sixteen, small letters for ten to fifteen. -/
def hexDigits (number : Nat) : List Char :=
  Nat.toDigits 16 number

/-- The form of one character inside double quotes. -/
def escapeChar (c : Char) : List Char :=
  if c = '\t' then ['\\', 't']
  else if c = '\n' then ['\\', 'n']
  else if c = '\r' then ['\\', 'r']
  else if c = '"' then ['\\', '"']
  else if c = '\\' then ['\\', '\\']
  else if c.toNat = 0 then ['\\', '0']
  else if isVisible c then [c]
  else ['\\', 'u', '\x7b'] ++ hexDigits c.toNat ++ ['\x7d']

/-- A text as diagnostics show it. -/
def quoted (text : String) : String :=
  String.ofList (['"'] ++ text.toList.flatMap escapeChar ++ ['"'])

def isOctalDigit (c : Char) : Bool :=
  '0' ≤ c && c ≤ '7'

/-- The characters of a literal. A null in front of an octal digit is spelt with
two hexadecimal digits, so that the literal cannot be taken for an octal escape. -/
def literalBody : List Char → List Char
  | [] => []
  | c :: rest =>
    let form :=
      if c.toNat = 0 && (rest.head?.map isOctalDigit).getD false then ['\\', 'x', '0', '0']
      else escapeChar c
    form ++ literalBody rest

/-- A text as a string literal of generated source. -/
def stringLiteral (text : String) : String :=
  String.ofList (['"'] ++ literalBody text.toList ++ ['"'])

/-- A list of texts as diagnostics show it. -/
def quotedList (texts : List String) : String :=
  "[" ++ String.intercalate ", " (texts.map quoted) ++ "]"

/-- An optional text as diagnostics show it. -/
def quotedOption : Option String → String
  | none => "None"
  | some text => "Some(" ++ quoted text ++ ")"

end PluginBridge.Text
