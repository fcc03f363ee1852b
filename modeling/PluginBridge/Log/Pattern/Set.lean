import PluginBridge.Log.Pattern.Atom

/-! Reading sets of characters in brackets: single characters, ranges, named
classes and sets inside sets, united or combined. -/
namespace PluginBridge.Log.Pattern

/-- The classes that have a name. -/
def classNames : List String :=
  ["alnum", "alpha", "ascii", "blank", "cntrl", "digit", "graph", "lower", "print", "punct",
    "space", "upper", "word", "xdigit"]

/-- A class by its name between colons, as it follows an opening bracket. -/
def namedClass? : List Char → Option (CharSet × List Char)
  | ':' :: text =>
    let (negated, text) := match text with
      | '^' :: rest => (true, rest)
      | rest => (false, rest)
    let name := text.takeWhile (· != ':')
    match text.drop name.length with
    | ':' :: ']' :: rest =>
      if classNames.contains (String.ofList name) then some (.named negated, rest) else none
    | _ => none
  | _ => none

/-- A single character or an escape. -/
def setAtom? (verbose : Bool) : List Char → Option (Atom × List Char)
  | [] => none
  | '\\' :: rest => escape? verbose rest
  | c :: rest => some (.literal ⟨c, false⟩, rest)

/-- A range, or an atom that no range begins with. A hyphen before a closing
bracket or another hyphen makes no range. -/
def member? (verbose : Bool) (text : List Char) : Option (CharSet × List Char) :=
  match setAtom? verbose text with
  | none => none
  | some (first, rest) =>
    let alone : Option (CharSet × List Char) :=
      match first with
      | .literal _ | .shorthand _ => some (.atom first, rest)
      | .textEdge | .wordEdge => none
    match skip verbose rest with
    | '-' :: rest =>
      match skip verbose rest with
      | ']' :: _ | '-' :: _ => alone
      | rest =>
        match first, setAtom? verbose rest with
        | .literal first, some (.literal last, rest) =>
          if first.char ≤ last.char then some (.range first last, rest) else none
        | _, _ => none
    | _ => alone

/-- The set so far, with the members read since the last operator. -/
def closeSet (left : Option CharSet) (members : List CharSet) : CharSet :=
  let right := CharSet.ofMembers members.reverse
  left.elim right fun left => .combined left right

mutual

/-- A set after its opening bracket. `fuel` bounds the steps and is more than a
text of its length can use. -/
def set? (fuel : Nat) (verbose : Bool) (text : List Char) : Option (CharSet × List Char) :=
  match fuel with
  | 0 => none
  | fuel + 1 =>
    let (negated, text) := match skip verbose text with
      | '^' :: rest => (true, rest)
      | rest => (false, rest)
    (members? fuel verbose true none [] text).map fun (inner, rest) =>
      (.bracketed negated inner, rest)

/-- The members of a set up to its closing bracket, last read first. Hyphens at
the beginning stand for themselves, and so does a bracket that is the first
member. -/
def members? (fuel : Nat) (verbose atStart : Bool) (left : Option CharSet)
    (members : List CharSet) (text : List Char) : Option (CharSet × List Char) :=
  match fuel with
  | 0 => none
  | fuel + 1 =>
    let text := skip verbose text
    let literal? : Option Char := text.head?.filter fun c =>
      atStart && (c == '-' || (c == ']' && members.isEmpty))
    match literal? with
    | some c =>
      members? fuel verbose (c == '-') left (.atom (.literal ⟨c, false⟩) :: members) (text.drop 1)
    | none =>
      match text with
      | [] => none
      | ']' :: rest => some (closeSet left members, rest)
      | '&' :: '&' :: rest | '-' :: '-' :: rest | '~' :: '~' :: rest =>
        members? fuel verbose false (some (closeSet left members)) [] rest
      | '[' :: rest =>
        match namedClass? rest with
        | some (named, rest) => members? fuel verbose false left (named :: members) rest
        | none =>
          match set? fuel verbose rest with
          | some (inner, rest) => members? fuel verbose false left (inner :: members) rest
          | none => none
      | text =>
        match member? verbose text with
        | some (member, rest) => members? fuel verbose false left (member :: members) rest
        | none => none

end

end PluginBridge.Log.Pattern
