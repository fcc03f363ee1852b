import PluginBridge.Text.Letter.Table
import PluginBridge.Text.Visible.Table

/-! Characters and their classes. The tables of the large classes are lists of ranges, and a class
holds a character when one of its ranges does. Blanks are few and need no table; commands,
versions and greetings are all trimmed by them, which removes a run of blanks from an end and
nothing else. -/
namespace PluginBridge.Text

namespace CodePoint

/-- Whether a code point is that of a character. -/
def isScalar (code : Nat) : Bool :=
  code < 0xD800 || (0xE000 ≤ code && code < 0x110000)

/-- Whether a code point lies in one of the inclusive ranges. -/
def within (ranges : List (Nat × Nat)) (code : Nat) : Bool :=
  ranges.any fun (first, last) => first ≤ code && code ≤ last

end CodePoint

/-! ## Blanks -/

/-- The characters with the Unicode property White_Space. -/
def isBlank (c : Char) : Bool :=
  let code := c.toNat
  (9 ≤ code && code ≤ 13) || code == 0x20 || code == 0x85 || code == 0xA0 || code == 0x1680 ||
    (0x2000 ≤ code && code ≤ 0x200A) || code == 0x2028 || code == 0x2029 || code == 0x202F ||
    code == 0x205F || code == 0x3000

/-- The text from its first character that is no blank. -/
def trimStart (text : List Char) : List Char :=
  text.dropWhile isBlank

/-- The text up to its last character that is no blank. -/
def trimEnd (text : List Char) : List Char :=
  (text.reverse.dropWhile isBlank).reverse

def trim (text : List Char) : List Char :=
  trimEnd (trimStart text)

/-- Nothing but blanks, or nothing at all. -/
def isBlankText (text : String) : Bool :=
  text.toList.all isBlank

/-! ## Letters and numerals of every script -/

def isLetter (c : Char) : Bool :=
  CodePoint.within Letter.alphabetic c.toNat

def isNumeral (c : Char) : Bool :=
  CodePoint.within Letter.numeric c.toNat

def isLetterOrNumeral (c : Char) : Bool :=
  isLetter c || isNumeral c

/-! ## What shows when it is printed -/

/-- Whether a character can be printed as it stands: it is neither invisible nor a mark that
attaches to its neighbour. -/
def isVisible (c : Char) : Bool :=
  let code := c.toNat
  if code < 0x20 then false
  else if code < 0x7F then true
  else !CodePoint.within Visible.invisible code && !CodePoint.within Visible.extending code

end PluginBridge.Text
