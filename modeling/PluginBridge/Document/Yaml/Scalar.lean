import PluginBridge.Document.Yaml.Word
import PluginBridge.Text.Quoted

/-! Texts in YAML. A text is written bare when nothing in it could be
misread, as a literal block when it has line feeds, between single quotes when
it only looks like something else, and between double quotes, with escapes, when
no other form keeps it. -/
namespace PluginBridge.Document.Yaml

/-- The characters that end a line. -/
def isBreak (c : Char) : Bool :=
  c == '\n' || c == '\r' || c.toNat == 0x85 || c.toNat == 0x2028 || c.toNat == 0x2029

/-- The characters a reader accepts unescaped. -/
def isPrintable (c : Char) : Bool :=
  let code := c.toNat
  code == 0x0A || (0x20 ≤ code && code ≤ 0x7E) || (0xA0 ≤ code && code ≤ 0xD7FF) ||
    (0xE000 ≤ code && code ≤ 0xFFFD && code != 0xFEFF) || 0x10000 ≤ code

/-- A null ends a text for the reader that looks for the end of a word. -/
def isWordEnd (c : Char) : Bool :=
  c == ' ' || c == '\t' || c.toNat == 0 || isBreak c

def endsWord : Option Char → Bool
  | none => true
  | some c => isWordEnd c

/-- Marks that mean something at the start of a text. -/
def leadingMarks : List Char :=
  ['#', ',', '[', ']', '\x7b', '\x7d', '&', '*', '!', '|', '>', '\x27', '"', '%', '@', '\x60']

/-- Whether the first character makes a bare text mean something else. -/
def leadsAstray : List Char → Bool
  | [] => false
  | first :: rest =>
    leadingMarks.contains first ||
      ((first == '?' || first == ':' || first == '-') && endsWord rest.head?)

/-- Whether a later character does: a colon before a gap ends a key, and a hash
after one starts a comment. -/
def turnsAstray : List Char → Bool
  | before :: c :: rest =>
    (c == ':' && endsWord rest.head?) || (c == '#' && isWordEnd before) || turnsAstray (c :: rest)
  | _ => false

/-- Three dashes or three points in front mark the ends of documents. -/
def marksDocument : List Char → Bool
  | '-' :: '-' :: '-' :: _ => true
  | '.' :: '.' :: '.' :: _ => true
  | _ => false

/-- Whether some character satisfies the first test and the one after it the
second. -/
def hasPair (first second : Char → Bool) : List Char → Bool
  | a :: b :: rest => (first a && second b) || hasPair first second (b :: rest)
  | _ => false

def isSpace (c : Char) : Bool :=
  c == ' '

/-- Neither bare nor quoted by single quotes nor as a block can these be kept. -/
def needsEscapes (text : List Char) : Bool :=
  text.any (!isPrintable ·) || hasPair isSpace isBreak text

def allowsBlock (text : List Char) : Bool :=
  !needsEscapes text && !text.getLast?.any isSpace

def allowsSingleQuotes (text : List Char) : Bool :=
  !needsEscapes text && !hasPair isBreak isSpace text

def isEdge (c : Char) : Bool :=
  isSpace c || isBreak c

def allowsBare (text : List Char) : Bool :=
  !needsEscapes text && !text.any isBreak && !text.head?.any isEdge && !text.getLast?.any isEdge &&
    !leadsAstray text && !turnsAstray text && !marksDocument text

inductive Style where
  | bare
  | single
  | double
  | block
deriving DecidableEq, Repr

/-- The first style in the order of preference that keeps the text. -/
def style (text : String) : Style :=
  let chars := text.toList
  if chars.contains '\n' then
    if allowsBlock chars then .block else .double
  else if allowsBare chars && !isReserved text then .bare
  else if allowsSingleQuotes chars then .single
  else .double

/-- The digits of a code point in capitals, padded to a width. -/
def paddedHex (width code : Nat) : List Char :=
  let digits := (Text.hexDigits code).map Char.toUpper
  List.replicate (width - digits.length) '0' ++ digits

def escapeChar (c : Char) : List Char :=
  let code := c.toNat
  if c = '"' then ['\\', '"']
  else if c = '\\' then ['\\', '\\']
  else if isPrintable c && !isBreak c then [c]
  else
    match [(0, '0'), (7, 'a'), (8, 'b'), (9, 't'), (10, 'n'), (11, 'v'), (12, 'f'), (13, 'r'),
        (27, 'e'), (0x85, 'N'), (0xA0, '_'), (0x2028, 'L'), (0x2029, 'P')].lookup code with
    | some letter => ['\\', letter]
    | none =>
      if code ≤ 0xFF then '\\' :: 'x' :: paddedHex 2 code
      else '\\' :: 'u' :: paddedHex 4 code

def doubleQuoted (text : List Char) : List Char :=
  ['"'] ++ text.flatMap escapeChar ++ ['"']

/-- The text between single quotes, which are doubled inside. What follows a
line end is indented, so `broken` tells whether a line has just ended. -/
def singleBody (indent : Nat) (broken : Bool) : List Char → List Char
  | [] => if broken then List.replicate indent ' ' else []
  | c :: rest =>
    if isBreak c then c :: singleBody indent true rest
    else
      let margin := if broken then List.replicate indent ' ' else []
      let form := if c = '\x27' then ['\x27', '\x27'] else [c]
      margin ++ form ++ singleBody indent false rest

def singleQuoted (indent : Nat) (text : List Char) : List Char :=
  ['\x27'] ++ singleBody indent false text ++ ['\x27']

/-- The lines of a block, each indented unless it is empty. -/
def blockBody (indent : Nat) (fresh : Bool) : List Char → List Char
  | [] => []
  | c :: rest =>
    if isBreak c then c :: blockBody indent true rest
    else
      let margin := if fresh then List.replicate indent ' ' else []
      margin ++ c :: blockBody indent false rest

/-- An indentation that cannot be read off the first line is given. -/
def indentHint (text : List Char) : List Char :=
  if text.head?.any isEdge then ['2'] else []

/-- What becomes of the line ends after the text: none is there, one is, or all
are kept. -/
def endingHint (text : List Char) : List Char :=
  match text.reverse with
  | [] => ['-']
  | last :: before =>
    if !isBreak last then ['-']
    else match before with
      | [] => ['+']
      | other :: _ => if isBreak other then ['+'] else []

def block (indent : Nat) (text : List Char) : List Char :=
  ['|'] ++ indentHint text ++ endingHint text ++ ['\n'] ++ blockBody indent true text

/-- A text as it stands after a key or a dash, at the indentation of what lies
inside. -/
def scalar (indent : Nat) (text : String) : List Char :=
  match style text with
  | .bare => text.toList
  | .single => singleQuoted indent text.toList
  | .double => doubleQuoted text.toList
  | .block => block indent text.toList

end PluginBridge.Document.Yaml
