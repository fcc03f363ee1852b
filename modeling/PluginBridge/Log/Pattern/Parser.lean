import PluginBridge.Log.Pattern.Group
import PluginBridge.Log.Pattern.Set

/-! Reading patterns. A vertical bar divides branches, parentheses make groups,
and a star, a plus or a question mark repeats the item before it. -/
namespace PluginBridge.Log.Pattern

/-- Whether a pattern can be repeated. -/
def isRepeatable : Pattern → Bool
  | .nothing | .switching _ => false
  | _ => true

/-- The text after the mark of a repetition that takes as little as it can. -/
def dropLazyMark : List Char → List Char
  | '?' :: rest => rest
  | rest => rest

/-- Branches up to the end of their group. `done` holds the finished branches
and `items` the items of the current one, both last read first. `fuel` bounds the
steps and is more than a text of its length can use. A repetition with a count
needs a closing brace, which no pattern here can hold. -/
def branches? (fuel : Nat) (verbose : Bool) (done items : List Pattern) (text : List Char) :
    Option (Pattern × List Char) :=
  match fuel with
  | 0 => none
  | fuel + 1 =>
    let close := ofBranches (ofItems items.reverse :: done).reverse
    match skip verbose text with
    | [] => some (close, [])
    | ')' :: rest => some (close, ')' :: rest)
    | '|' :: rest => branches? fuel verbose (ofItems items.reverse :: done) [] rest
    | '(' :: rest =>
      match opening? (skip verbose rest) with
      | none => none
      | some (.switching switches, rest) =>
        branches? fuel ((switches.lookup 'x').getD verbose) done (.switching switches :: items) rest
      | some (.group name switches, rest) =>
        match branches? fuel ((switches.lookup 'x').getD verbose) [] [] rest with
        | some (inner, ')' :: rest) =>
          branches? fuel verbose done (.group name switches inner :: items) rest
        | _ => none
    | '[' :: rest =>
      match set? fuel verbose rest with
      | some (set, rest) => branches? fuel verbose done (.oneOf set :: items) rest
      | none => none
    | '*' :: rest | '+' :: rest | '?' :: rest =>
      match items with
      | [] => none
      | last :: before =>
        if isRepeatable last then
          branches? fuel verbose done (.repeated last :: before) (dropLazyMark rest)
        else none
    | '\x7b' :: _ => none
    | '\\' :: rest =>
      match escape? verbose rest with
      | some (single, rest) => branches? fuel verbose done (.atom single :: items) rest
      | none => none
    | '.' :: rest => branches? fuel verbose done (.any :: items) rest
    | '^' :: rest | '$' :: rest => branches? fuel verbose done (.atom .textEdge :: items) rest
    | c :: rest => branches? fuel verbose done (.atom (.literal ⟨c, false⟩) :: items) rest

/-- The deepest that the parts of a pattern may lie inside each other. -/
def greatestDepth : Nat := 250

/-- The pattern that a text spells. No two groups have the same name. -/
def parse? (text : List Char) : Option Pattern :=
  match branches? (2 * text.length + 2) false [] [] text with
  | some (pattern, []) =>
    if pattern.height ≤ greatestDepth && decide pattern.groupNames.Nodup then some pattern else none
  | _ => none

end PluginBridge.Log.Pattern
