import PluginBridge.Log.Pattern
import PluginBridge.Text.Character
import PluginBridge.Text.Digit

/-! Reading the smallest parts of a pattern: single characters and escapes. In a
verbose pattern blanks and comments may stand between any two parts. -/
namespace PluginBridge.Log.Pattern

/-- The text after blanks and comments, of which a comment reaches from a hash
to the end of its line. -/
def skipRemarks : Bool → List Char → List Char
  | _, [] => []
  | inComment, c :: rest =>
    if inComment then skipRemarks (c != '\n') rest
    else if Text.isBlank c then skipRemarks false rest
    else if c = '#' then skipRemarks true rest
    else c :: rest

/-- The next part of a pattern, which may be verbose. -/
def skip (verbose : Bool) (text : List Char) : List Char :=
  if verbose then skipRemarks false text else text

/-- A character by the hexadecimal digits of its code point, of which `left` are
still to be read. -/
def codePoint? (verbose : Bool) (isByte : Bool) :
    Nat → Nat → List Char → Option (Atom × List Char)
  | 0, code, text =>
    if Text.CodePoint.isScalar code then some (.literal ⟨Char.ofNat code, isByte⟩, text) else none
  | left + 1, code, text =>
    match skip verbose text with
    | [] => none
    | c :: rest =>
      match Text.hexValue? c with
      | none => none
      | some digit => codePoint? verbose isByte left (code * 16 + digit) rest

/-- The control characters that have a letter. -/
def controlLetters : List (Char × Char) :=
  [('a', '\x07'), ('f', '\x0C'), ('t', '\t'), ('n', '\n'), ('r', '\r'), ('v', '\x0B')]

/-- Whether a character stands for itself after a backslash. -/
def standsForItself (c : Char) : Bool :=
  c.toNat < 0x80 && !c.isAlphanum && c != '<' && c != '>'

/-- What follows a backslash. Properties of characters and references to groups
are not known. -/
def escape? (verbose : Bool) : List Char → Option (Atom × List Char)
  | [] => none
  | c :: rest =>
    match controlLetters.lookup c with
    | some control => some (.literal ⟨control, false⟩, rest)
    | none =>
      if standsForItself c then some (.literal ⟨c, false⟩, rest)
      else if c = 'x' then codePoint? verbose true 2 0 rest
      else if c = 'u' then codePoint? verbose false 4 0 rest
      else if c = 'U' then codePoint? verbose false 8 0 rest
      else if ['d', 's', 'w'].contains c then some (.shorthand false, rest)
      else if ['D', 'S', 'W'].contains c then some (.shorthand true, rest)
      else if ['A', 'z'].contains c then some (.textEdge, rest)
      else if ['b', 'B', '<', '>'].contains c then some (.wordEdge, rest)
      else none

end PluginBridge.Log.Pattern
