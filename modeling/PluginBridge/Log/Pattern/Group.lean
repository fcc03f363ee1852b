import PluginBridge.Log.Pattern
import PluginBridge.Text.Character

/-! Reading what opens a group: a name, switches for the group, or switches for
the rest of the group around it. -/
namespace PluginBridge.Log.Pattern

/-- What an opening parenthesis begins. -/
inductive Opening where
  | switching (switches : Switches)
  | group (name : Option String) (switches : Switches)
deriving DecidableEq, Repr

/-- The letters of the switches, of which `i` ignores letter case, `u` reads the
text as characters instead of bytes and `x` makes the pattern verbose. -/
def switchLetters : List Char := ['i', 'm', 's', 'U', 'u', 'R', 'x']

def endsSwitches (c : Char) : Bool :=
  c == ':' || c == ')'

/-- Switches up to the character that ends them. A minus turns off all that
follow; neither it nor a letter may stand twice, and the minus may not be last. -/
def switches? (on : Bool) (read : Switches) : List Char → Option (Switches × List Char)
  | [] => none
  | c :: rest =>
    if endsSwitches c then some (read, c :: rest)
    else if c = '-' then
      if !on || rest.head?.any endsSwitches then none else switches? false read rest
    else if switchLetters.contains c && (read.lookup c).isNone then
      switches? on (read ++ [(c, on)]) rest
    else none

def isGroupName : List Char → Bool
  | [] => false
  | c :: rest =>
    (c == '_' || Text.isLetter c) &&
      rest.all fun c => ['_', '.', '[', ']'].contains c || Text.isLetterOrNumeral c

/-- A group's name up to the angle bracket that closes it. -/
def groupName? (text : List Char) : Option (String × List Char) :=
  let name := text.takeWhile (· != '>')
  match text.drop name.length with
  | _ :: rest => if isGroupName name then some (String.ofList name, rest) else none
  | [] => none

/-- What follows an opening parenthesis. Groups that look ahead or behind are
not known, and neither are switches for the rest of a group that switch nothing. -/
def opening? : List Char → Option (Opening × List Char)
  | '?' :: 'P' :: '<' :: rest | '?' :: '<' :: rest =>
    (groupName? rest).map fun (name, rest) => (.group (some name) [], rest)
  | '?' :: rest =>
    match switches? true [] rest with
    | some (switches, ':' :: rest) => some (.group none switches, rest)
    | some (first :: others, ')' :: rest) => some (.switching (first :: others), rest)
    | _ => none
  | rest => some (.group none [], rest)

end PluginBridge.Log.Pattern
