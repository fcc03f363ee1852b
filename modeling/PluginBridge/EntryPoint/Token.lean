import PluginBridge.Text.Quoted
import PluginBridge.Text.Segments

/-! Tokens of generated source. They are printed on one line with a blank
between neighbours, which is all a compiler needs. -/
namespace PluginBridge.EntryPoint

inductive Bracket where
  | round
  | square
  | curly
deriving DecidableEq, Repr

inductive Token where
  /-- A word or mark, spelt as it is. -/
  | plain (spelling : String)
  /-- A string literal. -/
  | text (value : String)
  /-- A string literal without escapes. -/
  | raw (value : String)
  | group (bracket : Bracket) (content : List Token)
deriving Repr

namespace Token

def enclose : Bracket → String → String
  | .round, content => "(" ++ content ++ ")"
  | .square, content => "[" ++ content ++ "]"
  | .curly, content => if content.isEmpty then "\x7b \x7d" else "\x7b " ++ content ++ " \x7d"

mutual

def spell : Token → String
  | .plain spelling => spelling
  | .text value => Text.stringLiteral value
  | .raw value => "r\"" ++ value ++ "\""
  | .group bracket content => enclose bracket (spellAll content)

def spellAll : List Token → String
  | [] => ""
  | [token] => token.spell
  | token :: next :: rest => token.spell ++ " " ++ spellAll (next :: rest)

end

end Token

/-- The tokens of constant source, whose words and marks stand apart. -/
def phrase (source : String) : List Token :=
  (Text.piecesAt ' ' source).map .plain

def round (content : List Token) : Token := .group .round content

def square (content : List Token) : Token := .group .square content

def curly (content : List Token) : Token := .group .curly content

/-- The contents of a list, with commas between its items. -/
def commas : List (List Token) → List Token
  | [] => []
  | [item] => item
  | item :: next :: rest => item ++ [.plain ","] ++ commas (next :: rest)

end PluginBridge.EntryPoint
