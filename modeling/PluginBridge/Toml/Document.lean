import PluginBridge.Toml.Moment
import PluginBridge.Toml.Table

/-! Reading TOML documents. A document is a sequence of lines, each of which
opens a table or gives a key its value; a line that breaks a rule makes the whole
document unreadable. -/
namespace PluginBridge.Toml

/-- How many brackets or keys may lie inside each other. -/
def depthLimit : Nat := 80

def isBareKey (c : Char) : Bool :=
  c.isAlphanum || c == '_' || c == '-'

def simpleKey? : List Char → Option (String × List Char)
  | '"' :: rest =>
    (quotedRest ⟨'"', false, true⟩ .plain rest).map fun (chars, after) =>
      (String.ofList chars, after)
  | '\x27' :: rest =>
    (quotedRest ⟨'\x27', false, false⟩ .plain rest).map fun (chars, after) =>
      (String.ofList chars, after)
  | text =>
    let key := text.takeWhile isBareKey
    if key.isEmpty then none else some (String.ofList key, text.drop key.length)

/-- Keys joined by points, with blanks around each. -/
def dottedKey? : Nat → List Char → Option (List String × List Char)
  | 0, _ => none
  | bound + 1, text =>
    match simpleKey? (skipBlanks text) with
    | none => none
    | some (key, rest) =>
      match skipBlanks rest with
      | '.' :: more => (dottedKey? bound more).map fun (keys, after) => (key :: keys, after)
      | after => some ([key], after)

def key? (text : List Char) : Option (List String × List Char) :=
  dottedKey? (depthLimit - 1) text

mutual

/-- A value and what follows it. `depth` is the number of brackets that may
still be opened; `fuel` bounds the steps and is more than a text of its length
can use. -/
def value? (fuel depth : Nat) (text : List Char) : Option (Value × List Char) :=
  match fuel with
  | 0 => none
  | fuel + 1 =>
    match text with
    | '"' :: _ | '\x27' :: _ => (quotedText? text).map fun (chars, rest) => (.text chars, rest)
    | '[' :: rest =>
      match depth with
      | 0 => none
      | depth + 1 => (items? fuel depth rest).map fun (items, after) => (.list items, after)
    | '\x7b' :: rest =>
      match depth with
      | 0 => none
      | depth + 1 =>
        match skipBlanks rest with
        | '\x7d' :: after => some (.table [], after)
        | rest => (pairs? fuel depth [] rest).map fun (entries, after) =>
          (.table (valuesOf entries), after)
    | _ => bareValue? text

/-- The items of a list up to its closing bracket. -/
def items? (fuel depth : Nat) (text : List Char) : Option (List Value × List Char) :=
  match fuel with
  | 0 => none
  | fuel + 1 =>
    match skipGaps false text with
    | none => none
    | some (']' :: rest) => some ([], rest)
    | some rest =>
      match value? fuel depth rest with
      | none => none
      | some (item, rest) =>
        match skipGaps false rest with
        | some (',' :: rest) =>
          (items? fuel depth rest).map fun (items, after) => (item :: items, after)
        | some (']' :: rest) => some ([item], rest)
        | _ => none

/-- The pairs of a table on one line, up to its closing brace. -/
def pairs? (fuel depth : Nat) (entries : Entries) (text : List Char) :
    Option (Entries × List Char) :=
  match fuel with
  | 0 => none
  | fuel + 1 =>
    match key? text with
    | some (keys, '=' :: rest) =>
      match value? fuel depth (skipBlanks rest) with
      | none => none
      | some (value, rest) =>
        match assign true keys (.closed value) entries with
        | none => none
        | some changed =>
          match skipBlanks rest with
          | ',' :: rest => pairs? fuel depth changed rest
          | '\x7d' :: rest => some (changed, rest)
          | _ => none
    | _ => none

end

/-- A document while it is read. -/
structure Progress where
  root : Entries
  /-- The keys of the last header. -/
  header : List String

/-- Reads a line that is not empty, up to its end. -/
def line? (progress : Progress) (text : List Char) : Option (Progress × List Char) :=
  match text with
  | '[' :: '[' :: rest =>
    match key? rest with
    | some (keys, ']' :: ']' :: rest) =>
      match underHeader openElement keys progress.root with
      | some root => (endLine false rest).map fun after => (⟨root, keys⟩, after)
      | none => none
    | _ => none
  | '[' :: rest =>
    match key? rest with
    | some (keys, ']' :: rest) =>
      match underHeader openTable keys progress.root with
      | some root => (endLine false rest).map fun after => (⟨root, keys⟩, after)
      | none => none
    | _ => none
  | _ =>
    match key? text with
    | some (keys, '=' :: rest) =>
      match value? (2 * rest.length + 2) (depthLimit - 1) (skipBlanks rest) with
      | none => none
      | some (value, rest) =>
        match assignUnder keys (.closed value) progress.header progress.root with
        | some root => (endLine false rest).map fun after => (⟨root, progress.header⟩, after)
        | none => none
    | _ => none

/-- Reads lines to the end of the text. Each takes at least one character, so
the length of the text bounds their number. -/
def lines? : Nat → Progress → List Char → Option Entries
  | 0, _, _ => none
  | bound + 1, progress, text =>
    match skipGaps false text with
    | none => none
    | some [] => some progress.root
    | some rest =>
      match line? progress rest with
      | none => none
      | some (progress, rest) => lines? bound progress rest

/-- A mark of the byte order may stand in front. -/
def dropOrderMark : List Char → List Char
  | c :: rest => if c.toNat = 0xFEFF then rest else c :: rest
  | [] => []

/-- The entries of a document. -/
def parse? (text : String) : Option (List (String × Value)) :=
  let chars := unifyLines (dropOrderMark text.toList)
  (lines? (chars.length + 1) ⟨[], []⟩ chars).map valuesOf

end PluginBridge.Toml
