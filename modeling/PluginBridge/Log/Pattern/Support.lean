import PluginBridge.Log.Pattern.Parser

/-! Which patterns can be used. Letter case and the classes of characters are
known for ASCII alone, so a pattern over all characters may neither ignore letter
case nor name a class by an escape, and a pattern over bytes may match nothing
beyond ASCII that could cut a character in two. -/
namespace PluginBridge.Log

/-- The switches in force that decide what can be used. -/
structure Mode where
  ignoresCase : Bool
  /-- Whether the text is read as characters instead of bytes. -/
  overCharacters : Bool
deriving DecidableEq, Repr

def Mode.standard : Mode := ⟨false, true⟩

def Mode.set (mode : Mode) (switches : Switches) : Mode :=
  ⟨(switches.lookup 'i').getD mode.ignoresCase, (switches.lookup 'u').getD mode.overCharacters⟩

def Literal.isAscii (literal : Literal) : Bool :=
  literal.char.toNat < 0x80

/-- Whether a character can be matched. -/
def Literal.isSupported (mode : Mode) (literal : Literal) : Bool :=
  if mode.overCharacters then !mode.ignoresCase else literal.isAscii || !literal.isByte

/-- Whether a character can belong to a set. -/
def Literal.isSupportedMember (mode : Mode) (literal : Literal) : Bool :=
  if mode.overCharacters then !mode.ignoresCase else literal.isAscii

def Atom.isSupported (mode : Mode) : Atom → Bool
  | .literal single => single.isSupported mode
  | .shorthand negated => !mode.overCharacters && !negated
  | .textEdge => true
  | .wordEdge => !mode.overCharacters

/-- Whether an atom can belong to a set. -/
def Atom.isSupportedMember (mode : Mode) : Atom → Bool
  | .literal single => single.isSupportedMember mode
  | .shorthand negated => !mode.overCharacters && !negated
  | .textEdge | .wordEdge => false

mutual

def CharSet.isSupported (mode : Mode) : CharSet → Bool
  | .nothing => true
  | .atom single => single.isSupportedMember mode
  | .range first last => first.isSupportedMember mode && last.isSupportedMember mode
  | .named negated => if mode.overCharacters then !mode.ignoresCase else !negated
  | .bracketed negated inner => inner.isSupported mode && (mode.overCharacters || !negated)
  | .union members => CharSet.allSupported mode members
  | .combined left right => left.isSupported mode && right.isSupported mode

def CharSet.allSupported (mode : Mode) : List CharSet → Bool
  | [] => true
  | member :: rest => member.isSupported mode && allSupported mode rest

end

namespace Pattern

mutual

/-- The switches in force after a pattern that can be used. -/
def modeAfter? (mode : Mode) : Pattern → Option Mode
  | .nothing => some mode
  | .atom single => if single.isSupported mode then some mode else none
  | .any => if mode.overCharacters then some mode else none
  | .oneOf set => if set.isSupported mode then some mode else none
  | .switching switches => some (mode.set switches)
  | .group _ switches inner => (inner.modeAfter? (mode.set switches)).map fun _ => mode
  | .repeated inner => inner.modeAfter? mode
  | .sequence items => modeAfterAll? mode items
  | .choice branches => modeAfterAll? mode branches

def modeAfterAll? (mode : Mode) : List Pattern → Option Mode
  | [] => some mode
  | item :: rest =>
    match item.modeAfter? mode with
    | some after => modeAfterAll? after rest
    | none => none

end

/-- Whether a text spells a pattern that can be used. -/
def isPattern (text : List Char) : Bool :=
  ((parse? text).bind (modeAfter? Mode.standard)).isSome

end Pattern
end PluginBridge.Log
