import PluginBridge.Document
import PluginBridge.Document.Yaml.Scalar

/-! The YAML spelling of documents: a line for each field, and below it a line
for each item of a list, at the same indentation. -/
namespace PluginBridge.Document.Yaml

/-- Ends the line unless the text has already ended it. -/
def endLine (line : List Char) : List Char :=
  if line.getLast?.any isBreak then line else line ++ ['\n']

def margin (indent : Nat) : List Char :=
  List.replicate indent ' '

mutual

/-- What follows a key, up to the end of its line or of its block. -/
def renderValue (indent : Nat) : Document → List Char
  | .text value => endLine (' ' :: scalar (indent + 2) value)
  | .flag value => endLine (if value then " true".toList else " false".toList)
  | .list [] => " []\n".toList
  | .list (item :: rest) => '\n' :: renderItems indent (item :: rest)
  | .fields [] => ' ' :: '\x7b' :: '\x7d' :: ['\n']
  | .fields (entry :: rest) => '\n' :: renderFields (indent + 2) (entry :: rest)

def renderItems (indent : Nat) : List Document → List Char
  | [] => []
  | item :: rest => margin indent ++ ['-'] ++ renderItem indent item ++ renderItems indent rest

/-- What follows a dash. The first field of an item shares its line. -/
def renderItem (indent : Nat) : Document → List Char
  | .text value => endLine (' ' :: scalar (indent + 2) value)
  | .flag value => endLine (if value then " true".toList else " false".toList)
  | .list [] => " []\n".toList
  | .list (item :: rest) =>
    ' ' :: '-' :: (renderItem (indent + 2) item ++ renderItems (indent + 2) rest)
  | .fields [] => ' ' :: '\x7b' :: '\x7d' :: ['\n']
  | .fields ((name, value) :: rest) =>
    ' ' :: (scalar (indent + 2) name ++ [':'] ++ renderValue (indent + 2) value ++
      renderFields (indent + 2) rest)

def renderFields (indent : Nat) : List (String × Document) → List Char
  | [] => []
  | (name, value) :: rest =>
    margin indent ++ scalar (indent + 2) name ++ [':'] ++ renderValue indent value ++
      renderFields indent rest

end

/-- A whole file. -/
def file : Document → String
  | .fields (entry :: rest) => String.ofList (renderFields 0 (entry :: rest))
  | .list (item :: rest) => String.ofList (renderItems 0 (item :: rest))
  | .fields [] => "\x7b\x7d\n"
  | .list [] => "[]\n"
  | .text value => String.ofList (endLine (scalar 2 value))
  | .flag value => if value then "true\n" else "false\n"

end PluginBridge.Document.Yaml
