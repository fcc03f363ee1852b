import PluginBridge.Text.Quoted

/-! Documents as hosts read them: texts, flags, lists and named fields. How a document is spelt is
the business of its format. The JSON spelling is for people: two blanks for each level, one
field or item on a line, and empty brackets closed at once. -/
namespace PluginBridge

inductive Document where
  | text (value : String)
  | flag (value : Bool)
  | list (items : List Document)
  | fields (entries : List (String × Document))
deriving Repr

namespace Document

def texts (values : List String) : Document :=
  .list (values.map .text)

/-- The value of the first field with this name. -/
def field? (name : String) : Document → Option Document
  | .fields entries => entries.lookup name
  | _ => none

/-- An entry for a value that may be missing, which then has no entry. -/
def optionalEntry (name : String) (value : Option String) : List (String × Document) :=
  value.toList.map fun value => (name, .text value)

end Document

/-! ## JSON -/

namespace Document.Json

/-- Two hexadecimal digits. -/
def twoDigits (code : Nat) : List Char :=
  (if code < 16 then ['0'] else []) ++ Text.hexDigits code

/-- Quotes, backslashes and control characters are escaped, and nothing else. -/
def escapeChar (c : Char) : List Char :=
  if c = '"' then ['\\', '"']
  else if c = '\\' then ['\\', '\\']
  else if c = '\n' then ['\\', 'n']
  else if c = '\r' then ['\\', 'r']
  else if c = '\t' then ['\\', 't']
  else if c.toNat = 8 then ['\\', 'b']
  else if c.toNat = 12 then ['\\', 'f']
  else if c.toNat < 0x20 then ['\\', 'u', '0', '0'] ++ twoDigits c.toNat
  else [c]

def spell (text : String) : String :=
  String.ofList (['"'] ++ text.toList.flatMap escapeChar ++ ['"'])

def lineBreak (depth : Nat) : String :=
  String.ofList ('\n' :: List.replicate (2 * depth) ' ')

mutual

/-- The document, with the lines after its first indented to a depth. -/
def render (depth : Nat) : Document → String
  | .text value => spell value
  | .flag value => if value then "true" else "false"
  | .list [] => "[]"
  | .list (first :: rest) =>
    "[" ++ lineBreak (depth + 1) ++ render (depth + 1) first ++ renderItems (depth + 1) rest ++
      lineBreak depth ++ "]"
  | .fields [] => "\x7b\x7d"
  | .fields ((name, value) :: rest) =>
    "\x7b" ++ lineBreak (depth + 1) ++ spell name ++ ": " ++ render (depth + 1) value ++
      renderFields (depth + 1) rest ++ lineBreak depth ++ "\x7d"

def renderItems (depth : Nat) : List Document → String
  | [] => ""
  | item :: rest => "," ++ lineBreak depth ++ render depth item ++ renderItems depth rest

def renderFields (depth : Nat) : List (String × Document) → String
  | [] => ""
  | (name, value) :: rest =>
    "," ++ lineBreak depth ++ spell name ++ ": " ++ render depth value ++ renderFields depth rest

end

/-- A whole file. -/
def file (document : Document) : String :=
  render 0 document ++ "\n"

end Document.Json
end PluginBridge
