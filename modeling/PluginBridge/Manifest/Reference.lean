import PluginBridge.Text.Segments

/-! References to types in generated source: identifiers joined by double
colons. -/
namespace PluginBridge.Manifest.Reference
open Text

/-- The pieces of a reference, cut at double colons from the left. -/
def cut : List Char → List (List Char)
  | ':' :: ':' :: rest => [] :: cut rest
  | c :: rest => extendFirst c (cut rest)
  | [] => [[]]

def segments (reference : String) : List String :=
  (cut reference.toList).map String.ofList

def joined (segments : List String) : String :=
  String.intercalate "::" segments

/-- The start of a text up to its first double colon. -/
def beforeFirst : List Char → List Char
  | ':' :: ':' :: _ => []
  | c :: rest => c :: beforeFirst rest
  | [] => []

/-- What follows the last double colon. -/
def lastSegment (reference : String) : String :=
  String.ofList (beforeFirst reference.toList.reverse).reverse

/-- Words the generated language keeps for itself. -/
def keywords : List String :=
  ["abstract", "as", "async", "await", "become", "box", "break", "const", "continue", "crate",
    "do", "dyn", "else", "enum", "extern", "false", "final", "fn", "for", "gen", "if", "impl",
    "in", "let", "loop", "macro", "match", "mod", "move", "mut", "override", "priv", "pub",
    "ref", "return", "self", "Self", "static", "struct", "super", "trait", "true", "try", "type",
    "typeof", "unsafe", "unsized", "use", "virtual", "where", "while", "yield"]

def startsIdentifier (c : Char) : Bool :=
  c.isAlpha || c == '_'

def continuesIdentifier (c : Char) : Bool :=
  c.isAlphanum || c == '_'

/-- An ASCII letter or underscore, then letters, digits and underscores. -/
def isWord : List Char → Bool
  | [] => false
  | first :: rest => startsIdentifier first && rest.all continuesIdentifier

/-- A word that can name something: no keyword, and not the lone underscore. -/
def isIdentifier (text : String) : Bool :=
  isWord text.toList && text != "_" && !keywords.contains text

end PluginBridge.Manifest.Reference
