/-! Command arguments are separated by blanks, a space or a tab. A quoted part
may hold blanks, single quotes take everything as it stands, and inside double
quotes a backslash takes the next character as it stands. A quote makes an
argument even of nothing. -/
namespace PluginBridge.Arguments

/-- What the next character means. -/
inductive Mode where
  | bare
  | single
  | double
  | escaped
deriving DecidableEq, Repr

/-- The argument being read. It exists once it has a character or a quote. -/
structure Word where
  read : List Char
  quoted : Bool
deriving DecidableEq, Repr

namespace Word

def empty : Word := ⟨[], false⟩

def push (word : Word) (c : Char) : Word :=
  ⟨word.read ++ [c], word.quoted⟩

def quote (word : Word) : Word :=
  ⟨word.read, true⟩

/-- The argument, if there is one. -/
def finish (word : Word) : List (List Char) :=
  if word.read.isEmpty && !word.quoted then [] else [word.read]

end Word

/-- The characters that separate arguments. -/
def isGap (c : Char) : Bool :=
  c == ' ' || c == '\t'

/-- The arguments that are finished from here on, and how reading ends. -/
def scan : Mode → Word → List Char → List (List Char) × Mode
  | mode, word, [] => (word.finish, mode)
  | .escaped, word, c :: rest => scan .double (word.push c) rest
  | .double, word, c :: rest =>
    if c = '\\' then scan .escaped word rest
    else if c = '"' then scan .bare word.quote rest
    else scan .double (word.push c) rest
  | .single, word, c :: rest =>
    if c = '\x27' then scan .bare word.quote rest else scan .single (word.push c) rest
  | .bare, word, c :: rest =>
    if c = '\x27' then scan .single word.quote rest
    else if c = '"' then scan .double word.quote rest
    else if isGap c then
      let later := scan .bare .empty rest
      (word.finish ++ later.1, later.2)
    else scan .bare (word.push c) rest

/-- The arguments of a command line. -/
def split (input : String) : List String :=
  (scan .bare .empty input.toList).1.map String.ofList

/-- Whether the player is about to type a new argument: the line is empty or
ends in a gap. -/
def awaitsArgument (input : List Char) : Bool :=
  match input.getLast? with
  | none => true
  | some last => isGap last

/-- The arguments of a line that is still being typed. The last one is the word
under the cursor, which is empty after a gap; a gap inside an open quote belongs
to the quoted word. -/
def splitForCompletion (input : String) : List String :=
  let (arguments, ending) := scan .bare .empty input.toList
  let words := arguments.map String.ofList
  if ending = .bare && awaitsArgument input.toList then words ++ [""] else words

end PluginBridge.Arguments
