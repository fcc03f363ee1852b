import PluginBridge.Text.Character
import PluginBridge.Text.Digit

/-! Characters and quoted texts of TOML. Texts are read one character at a time;
a multi-line text ends at three quotes, of which the reader may have to wait for
more, and a backslash at the end of a line swallows the gap that follows. Line
ends have been made line feeds before. -/
namespace PluginBridge.Toml
open Text

/-- The text with each carriage return and line feed made a line feed. -/
def unifyLines : List Char → List Char
  | '\r' :: '\n' :: rest => '\n' :: unifyLines rest
  | c :: rest => c :: unifyLines rest
  | [] => []

def isBlank (c : Char) : Bool :=
  c == ' ' || c == '\t'

def isGap (c : Char) : Bool :=
  isBlank c || c == '\n'

/-- Characters that may stand in comments and literal texts. -/
def isOrdinary (c : Char) : Bool :=
  c == '\t' || (0x20 ≤ c.toNat && c.toNat ≤ 0x7E) || 0x80 ≤ c.toNat

def skipBlanks (text : List Char) : List Char :=
  text.dropWhile isBlank

/-- Skips blanks, line ends and comments. -/
def skipGaps (commented : Bool) : List Char → Option (List Char)
  | [] => some []
  | c :: rest =>
    if c = '\n' then skipGaps false rest
    else if commented then if isOrdinary c then skipGaps true rest else none
    else if isBlank c then skipGaps false rest
    else if c = '#' then skipGaps true rest
    else some (c :: rest)

/-- Skips blanks and a comment up to the end of the line, which must follow. -/
def endLine (commented : Bool) : List Char → Option (List Char)
  | [] => some []
  | c :: rest =>
    if c = '\n' then some rest
    else if commented then if isOrdinary c then endLine true rest else none
    else if isBlank c then endLine false rest
    else if c = '#' then endLine true rest
    else none

/-- How a text is quoted. -/
structure Quoting where
  mark : Char
  /-- Three marks on each side, with line ends allowed between. -/
  multiline : Bool
  escapes : Bool
deriving DecidableEq, Repr

inductive Reading where
  | plain
  /-- Marks that may end the text. -/
  | marks (count : Nat)
  | escaped
  /-- Digits of a code point, of which some are left. -/
  | coded (left code : Nat)
  /-- After a backslash that ends the line. -/
  | lineEnd
  | gap
deriving DecidableEq, Repr

inductive Move where
  | emit (chars : List Char) (next : Reading)
  /-- The text ended before this character. -/
  | ended (chars : List Char)
  /-- This character ends the text. -/
  | ends
  | fail
deriving DecidableEq, Repr

def readPlain (quoting : Quoting) (c : Char) : Move :=
  if c = quoting.mark then if quoting.multiline then .emit [] (.marks 1) else .ends
  else if c = '\\' && quoting.escapes then .emit [] .escaped
  else if c = '\n' then if quoting.multiline then .emit [c] .plain else .fail
  else if isOrdinary c then .emit [c] .plain
  else .fail

def readEscaped (quoting : Quoting) (c : Char) : Move :=
  match [('b', '\x08'), ('t', '\t'), ('n', '\n'), ('f', '\x0C'), ('r', '\r'), ('"', '"'),
      ('\\', '\\')].lookup c with
  | some meant => .emit [meant] .plain
  | none =>
    if c = 'u' then .emit [] (.coded 4 0)
    else if c = 'U' then .emit [] (.coded 8 0)
    else if quoting.multiline && isBlank c then .emit [] .lineEnd
    else if quoting.multiline && c = '\n' then .emit [] .gap
    else .fail

def read (quoting : Quoting) : Reading → Char → Move
  | .plain, c => readPlain quoting c
  | .marks count, c =>
    if c = quoting.mark && count < 5 then .emit [] (.marks (count + 1))
    else if 3 ≤ count then .ended (List.replicate (count - 3) quoting.mark)
    else match readPlain quoting c with
      | .emit chars next => .emit (List.replicate count quoting.mark ++ chars) next
      | other => other
  | .escaped, c => readEscaped quoting c
  | .coded left code, c =>
    match hexValue? c with
    | none => .fail
    | some value =>
      let code := code * 16 + value
      if 1 < left then .emit [] (.coded (left - 1) code)
      else if CodePoint.isScalar code then .emit [Char.ofNat code] .plain
      else .fail
  | .lineEnd, c =>
    if isBlank c then .emit [] .lineEnd else if c = '\n' then .emit [] .gap else .fail
  | .gap, c => if isGap c then .emit [] .gap else readPlain quoting c

/-- The rest of a quoted text, and what follows it. -/
def quotedRest (quoting : Quoting) : Reading → List Char → Option (List Char × List Char)
  | .marks count, [] =>
    if 3 ≤ count then some (List.replicate (count - 3) quoting.mark, []) else none
  | _, [] => none
  | reading, c :: rest =>
    match read quoting reading c with
    | .emit chars next =>
      (quotedRest quoting next rest).map fun (later, after) => (chars ++ later, after)
    | .ended chars => some (chars, c :: rest)
    | .ends => some ([], rest)
    | .fail => none

/-- A line end right after the opening marks does not count. -/
def dropLineEnd : List Char → List Char
  | '\n' :: rest => rest
  | text => text

/-- A quoted text and what follows it. -/
def quotedText? : List Char → Option (String × List Char)
  | '"' :: '"' :: '"' :: rest =>
    (quotedRest ⟨'"', true, true⟩ .plain (dropLineEnd rest)).map fun (chars, after) =>
      (String.ofList chars, after)
  | '\x27' :: '\x27' :: '\x27' :: rest =>
    (quotedRest ⟨'\x27', true, false⟩ .plain (dropLineEnd rest)).map fun (chars, after) =>
      (String.ofList chars, after)
  | '"' :: rest =>
    (quotedRest ⟨'"', false, true⟩ .plain rest).map fun (chars, after) =>
      (String.ofList chars, after)
  | '\x27' :: rest =>
    (quotedRest ⟨'\x27', false, false⟩ .plain rest).map fun (chars, after) =>
      (String.ofList chars, after)
  | _ => none

end PluginBridge.Toml
