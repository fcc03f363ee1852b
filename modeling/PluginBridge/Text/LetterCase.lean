import PluginBridge.Text.Character
import PluginBridge.Text.LetterCase.Table

/-! Capital and small letters of every script. A letter may become several
characters, and a capital sigma becomes a final one at the end of a word. ASCII
text is mapped by the ASCII rule alone. -/
namespace PluginBridge.Text.LetterCase

def inRun (code : Nat) : Nat × Nat × Nat × Int → Bool
  | (first, last, step, _) => first ≤ code && code ≤ last && (code - first) % step == 0

def otherForm (runs : List (Nat × Nat × Nat × Int)) (expansions : List (Nat × List Nat))
    (c : Char) : List Char :=
  match expansions.lookup c.toNat with
  | some codes => codes.map Char.ofNat
  | none =>
    match runs.find? (inRun c.toNat) with
    | some (_, _, _, distance) => [Char.ofNat (c.toNat + distance).toNat]
    | none => [c]

/-- The capital form of a character, which is the character itself when it has
none. -/
def capital (c : Char) : List Char :=
  if c.toNat < 0x80 then [c.toUpper] else otherForm capitalRuns capitalExpansions c

/-- The small form of a character away from its word. -/
def small (c : Char) : List Char :=
  if c.toNat < 0x80 then [c.toLower] else otherForm smallRuns smallExpansions c

/-- Whether a letter follows once the marks that belong to the word are passed. -/
def letterFollows (text : List Char) : Bool :=
  match text.dropWhile fun c => CodePoint.within caseIgnorable c.toNat with
  | [] => false
  | c :: _ => CodePoint.within cased c.toNat

/-- Small forms of the text that follows `before`, which is read backwards. A
capital sigma is final when a letter precedes it and none follows. -/
def smallAfter (before : List Char) : List Char → List Char
  | [] => []
  | c :: rest =>
    let form :=
      if c.toNat = 0x3A3 then
        [Char.ofNat (if letterFollows before && !letterFollows rest then 0x3C2 else 0x3C3)]
      else small c
    form ++ smallAfter (c :: before) rest

/-- The text in capitals. -/
def toCapitals (text : String) : String :=
  String.ofList (text.toList.flatMap capital)

/-- The text in small letters. -/
def toSmall (text : String) : String :=
  String.ofList (smallAfter [] text.toList)

end PluginBridge.Text.LetterCase
