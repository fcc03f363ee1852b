/-! Patterns that say which texts a value may have: literal characters, sets of
characters, assertions, groups, repetitions, sequences and choices. Patterns here
are read and checked, not matched. -/
namespace PluginBridge.Log

/-- Switches as they are written, in order: a letter, and whether it is turned on. -/
abbrev Switches := List (Char × Bool)

/-- A character that stands for itself. -/
structure Literal where
  char : Char
  /-- Whether it is written as the number of a byte. -/
  isByte : Bool
deriving DecidableEq, Repr

/-- What a single character or an escape stands for. -/
inductive Atom where
  | literal (literal : Literal)
  /-- The digits, blanks or word characters, or all but those. -/
  | shorthand (negated : Bool)
  /-- An end of the text or of a line. -/
  | textEdge
  | wordEdge
deriving DecidableEq, Repr

/-- Sets of characters in brackets. -/
inductive CharSet where
  | nothing
  | atom (atom : Atom)
  | range (first last : Literal)
  /-- A class by its name. -/
  | named (negated : Bool)
  | bracketed (negated : Bool) (inner : CharSet)
  | union (members : List CharSet)
  /-- An intersection or a difference. -/
  | combined (left right : CharSet)
deriving Repr

inductive Pattern where
  | nothing
  | atom (atom : Atom)
  /-- Any character. -/
  | any
  | oneOf (set : CharSet)
  /-- Switches for the rest of the group. -/
  | switching (switches : Switches)
  | group (name : Option String) (switches : Switches) (inner : Pattern)
  | repeated (inner : Pattern)
  | sequence (items : List Pattern)
  | choice (branches : List Pattern)
deriving Repr

mutual

/-- How deep the parts of a set lie inside each other. -/
def CharSet.height : CharSet → Nat
  | .nothing | .atom _ | .range _ _ | .named _ => 0
  | .bracketed _ inner => inner.height + 1
  | .union members => CharSet.greatestHeight members + 1
  | .combined left right => max left.height right.height + 1

def CharSet.greatestHeight : List CharSet → Nat
  | [] => 0
  | member :: rest => max member.height (greatestHeight rest)

end

namespace Pattern

mutual

/-- How deep the parts of a pattern lie inside each other. -/
def height : Pattern → Nat
  | .nothing | .atom _ | .any | .switching _ => 0
  | .oneOf set => set.height
  | .group _ _ inner | .repeated inner => inner.height + 1
  | .sequence items => greatestHeight items + 1
  | .choice branches => greatestHeight branches + 1

def greatestHeight : List Pattern → Nat
  | [] => 0
  | item :: rest => max item.height (greatestHeight rest)

end

mutual

/-- The names of the groups in order. -/
def groupNames : Pattern → List String
  | .nothing | .atom _ | .any | .switching _ | .oneOf _ => []
  | .group name _ inner => name.toList ++ inner.groupNames
  | .repeated inner => inner.groupNames
  | .sequence items => allGroupNames items
  | .choice branches => allGroupNames branches

def allGroupNames : List Pattern → List String
  | [] => []
  | item :: rest => item.groupNames ++ allGroupNames rest

end

/-- A sequence of items, which is the item itself when there is one. -/
def ofItems : List Pattern → Pattern
  | [] => .nothing
  | [item] => item
  | items => .sequence items

/-- A choice of branches, which is the branch itself when there is one. -/
def ofBranches : List Pattern → Pattern
  | [branch] => branch
  | branches => .choice branches

end Pattern

/-- A set of members, which is the member itself when there is one. -/
def CharSet.ofMembers : List CharSet → CharSet
  | [] => .nothing
  | [member] => member
  | members => .union members

end PluginBridge.Log
