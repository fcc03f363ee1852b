import PluginBridge.Value

/-! Tables of a TOML document while it is read. A table knows how it came to
be, since that decides whether it may be opened or extended again: a header opens
a table once, dotted keys extend only what dotted keys or headers below it have
made, and a table written as a value is closed. -/
namespace PluginBridge.Toml

inductive Form where
  /-- Only headers of tables inside it have been seen. -/
  | implied
  | dotted
  | opened
deriving DecidableEq, Repr

inductive Node where
  | closed (value : Value)
  | table (form : Form) (entries : List (String × Node))
  | tables (elements : List (List (String × Node)))
deriving Repr

abbrev Entries := List (String × Node)

def replace (key : String) (node : Node) : Entries → Entries
  | [] => []
  | (other, old) :: rest =>
    if other = key then (key, node) :: rest else (other, old) :: replace key node rest

/-- The node with its table changed, or with the last of its tables. -/
def withinLast (change : Entries → Option Entries) (elements : List Entries) : Option Node :=
  match elements.getLast? with
  | none => none
  | some last => (change last).map fun changed => .tables (elements.dropLast ++ [changed])

/-- Gives a key its value. The keys before the last one are those of tables,
which are made when they are missing. -/
def assign (extensible : Bool) : List String → Node → Entries → Option Entries
  | [], _, _ => none
  | [key], node, entries =>
    if extensible && (entries.lookup key).isNone then some (entries ++ [(key, node)]) else none
  | key :: next :: keys, node, entries =>
    match entries.lookup key with
    | none =>
      (assign true (next :: keys) node []).map fun inner => entries ++ [(key, .table .dotted inner)]
    | some (.table form inner) =>
      if form = .opened then none
      else (assign (form = .dotted) (next :: keys) node inner).map fun changed =>
        replace key (.table form changed) entries
    | some (.tables elements) =>
      (withinLast (assign false (next :: keys) node) elements).map fun changed =>
        replace key changed entries
    | some (.closed _) => none

/-- Follows the keys of a header and changes the table at its end. Missing
tables on the way are implied. -/
def underHeader (finish : String → Entries → Option Entries) :
    List String → Entries → Option Entries
  | [], _ => none
  | [key], entries => finish key entries
  | key :: next :: keys, entries =>
    match entries.lookup key with
    | none =>
      (underHeader finish (next :: keys) []).map fun inner =>
        entries ++ [(key, .table .implied inner)]
    | some (.table form inner) =>
      (underHeader finish (next :: keys) inner).map fun changed =>
        replace key (.table form changed) entries
    | some (.tables elements) =>
      (withinLast (underHeader finish (next :: keys)) elements).map fun changed =>
        replace key changed entries
    | some (.closed _) => none

/-- Opens a table. One that was implied so far may still be opened. -/
def openTable (key : String) (entries : Entries) : Option Entries :=
  match entries.lookup key with
  | none => some (entries ++ [(key, .table .opened [])])
  | some (.table .implied inner) => some (replace key (.table .opened inner) entries)
  | some _ => none

/-- Opens the next table of a list of tables. -/
def openElement (key : String) (entries : Entries) : Option Entries :=
  match entries.lookup key with
  | none => some (entries ++ [(key, .tables [[]])])
  | some (.tables elements) => some (replace key (.tables (elements ++ [[]])) entries)
  | some _ => none

/-- Gives a key its value in the table that a header has opened. -/
def assignUnder (keys : List String) (node : Node) : List String → Entries → Option Entries
  | [], entries => assign true keys node entries
  | key :: header, entries =>
    match entries.lookup key with
    | some (.table form inner) =>
      (assignUnder keys node header inner).map fun changed =>
        replace key (.table form changed) entries
    | some (.tables elements) =>
      (withinLast (assignUnder keys node header) elements).map fun changed =>
        replace key changed entries
    | _ => none

mutual

/-- What a table holds, now that it is finished. -/
def Node.value : Node → Value
  | .closed value => value
  | .table _ entries => .table (valuesOf entries)
  | .tables elements => .list (listsOf elements)

def valuesOf : List (String × Node) → List (String × Value)
  | [] => []
  | (key, node) :: rest => (key, node.value) :: valuesOf rest

def listsOf : List (List (String × Node)) → List Value
  | [] => []
  | element :: rest => .table (valuesOf element) :: listsOf rest

end

end PluginBridge.Toml
