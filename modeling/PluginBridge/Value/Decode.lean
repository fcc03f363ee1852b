import PluginBridge.Value

/-! Decoding values into what a program expects. The first value that does not
fit is reported with the way to it. Sources differ in how freely they read
records and choices, so each decoder is told where its value comes from. -/
namespace PluginBridge.Decode

/-- What is wrong with a value. -/
inductive Kind where
  | invalidType
  | invalidValue
  | invalidLength
  | unknownVariant
  | unknownField
  | missingField
  | message
deriving DecidableEq, Repr

def Kind.name : Kind → String
  | .invalidType => "InvalidType"
  | .invalidValue => "InvalidValue"
  | .invalidLength => "InvalidLength"
  | .unknownVariant => "UnknownVariant"
  | .unknownField => "UnknownField"
  | .missingField => "MissingField"
  | .message => "Message"

structure Mismatch where
  kind : Kind
  /-- The keys that lead to the value. -/
  path : List String
deriving DecidableEq, Repr

def Mismatch.under (key : String) (mismatch : Mismatch) : Mismatch :=
  ⟨mismatch.kind, key :: mismatch.path⟩

/-- Where a value comes from. -/
inductive Source where
  /-- A message, whose lists have exactly the expected length. -/
  | message
  /-- A manifest written as a document. -/
  | manifest
  /-- Layered settings. -/
  | settings
deriving DecidableEq, Repr

abbrev Outcome (α : Type) := Except Mismatch α

def wrong {α : Type} (kind : Kind) : Outcome α :=
  .error ⟨kind, []⟩

/-- Runs a decoder on the value of a key. -/
def within {α : Type} (key : String) (outcome : Outcome α) : Outcome α :=
  outcome.mapError (·.under key)

theorem bind_eq_ok_iff {ε α β : Type} {first : Except ε α} {next : α → Except ε β} {value : β} :
    (first >>= next) = .ok value ↔ ∃ known, first = .ok known ∧ next known = .ok value := by
  cases first with
  | error failure => exact ⟨nofun, fun ⟨_, impossible, _⟩ => nomatch impossible⟩
  | ok known => exact ⟨fun same => ⟨known, rfl, same⟩, fun ⟨_, rfl, same⟩ => same⟩

theorem within_eq_ok_iff {α : Type} {key : String} {outcome : Outcome α} {value : α} :
    within key outcome = .ok value ↔ outcome = .ok value := by
  cases outcome with
  | error failure => exact ⟨nofun, nofun⟩
  | ok known => exact Iff.rfl

def text : Value → Outcome String
  | .text value => .ok value
  | .letter value => .ok value.toString
  | _ => wrong .invalidType

def flag : Value → Outcome Bool
  | .flag value => .ok value
  | _ => wrong .invalidType

/-- A whole number between bounds. -/
def whole (least greatest : Int) : Value → Outcome Int
  | .whole value => if least ≤ value && value ≤ greatest then .ok value else wrong .invalidValue
  | _ => wrong .invalidType

def natural32 (value : Value) : Outcome Nat :=
  (whole 0 4294967295 value).map Int.toNat

def integer64 : Value → Outcome Int :=
  whole (-9223372036854775808) 9223372036854775807

def optional {α : Type} (decode : Value → Outcome α) : Value → Outcome (Option α)
  | .null => .ok none
  | value => (decode value).map some

def listFrom {α : Type} (decode : Value → Outcome α) : Nat → List Value → Outcome (List α)
  | _, [] => .ok []
  | index, item :: rest => do
    let first ← within (toString index) (decode item)
    let others ← listFrom decode (index + 1) rest
    return first :: others

def list {α : Type} (decode : Value → Outcome α) : Value → Outcome (List α)
  | .list items => listFrom decode 0 items
  | _ => wrong .invalidType

def entriesOf {α : Type} (decode : Value → Outcome α) :
    List (String × Value) → Outcome (List (String × α))
  | [] => .ok []
  | (key, value) :: rest => do
    let first ← within key (decode value)
    let others ← entriesOf decode rest
    return (key, first) :: others

def table {α : Type} (decode : Value → Outcome α) : Value → Outcome (List (String × α))
  | .table entries => entriesOf decode entries
  | _ => wrong .invalidType

/-- Whether a value may stand beside the name of a choice that carries nothing. -/
def isNothing (source : Source) : Value → Bool
  | .null => source != .manifest
  | .list items => source == .manifest && items.isEmpty
  | .table entries => source == .manifest && entries.isEmpty
  | _ => false

/-- What is wrong with an unknown name that is the key of a table. Settings tell
the key. -/
def unknownKey {α : Type} (source : Source) (name : String) : Outcome α :=
  if source == .settings then within name (wrong .unknownVariant) else wrong .unknownVariant

/-- A choice by name. It may also be written as a table whose key is the name. -/
def choice {α : Type} (source : Source) (ofName? : String → Option α) : Value → Outcome α
  | .text name => (ofName? name).elim (wrong .unknownVariant) .ok
  | .table ((name, value) :: rest) =>
    if source != .settings && !rest.isEmpty then wrong .invalidValue
    else match ofName? name with
      | none => unknownKey source name
      | some chosen =>
        if isNothing source value then .ok chosen else within name (wrong .invalidType)
  | _ => wrong .invalidType

/-- A field of a record, with a test of the values it takes. -/
structure Field where
  name : String
  check : Value → Outcome Unit

def Field.of {α : Type} (name : String) (decode : Value → Outcome α) : Field :=
  ⟨name, fun value => (decode value).map fun _ => ()⟩

/-- Tests the fields in the order in which a table gives them. -/
def checkEntries (fields : List Field) (open_ : Bool) : List (String × Value) → Outcome Unit
  | [] => .ok ()
  | (key, value) :: rest => do
    match fields.find? (·.name == key) with
    | some field => within key (field.check value)
    | none => if open_ then .ok () else wrong .unknownField
    checkEntries fields open_ rest

/-- Tests the fields against the items of a list. -/
def checkItems : Nat → List Field → List Value → Outcome Unit
  | index, field :: fields, item :: items => do
    within (toString index) (field.check item)
    checkItems (index + 1) fields items
  | _, _, _ => .ok ()

/-- The values given for the fields of a record. -/
structure Given where
  entries : List (String × Value)
  /-- Whether the record was written as a list of its values. -/
  positional : Bool

/-- Reads a record, which is a table of its fields or a list of their values in
order. An open record may have other keys as well. -/
def record (source : Source) (fields : List Field) (open_ : Bool) : Value → Outcome Given
  | .table entries => do
    checkEntries fields open_ entries
    return ⟨entries, false⟩
  | .list items => do
    checkItems 0 fields items
    if source == .message && items.length > fields.length then wrong .invalidLength
    return ⟨(fields.map (·.name)).zip items, true⟩
  | _ => wrong .invalidType

/-- The value of a field that must be there. -/
def Given.required {α : Type} (given : Given) (name : String) (decode : Value → Outcome α) :
    Outcome α :=
  match given.entries.lookup name with
  | some value => within name (decode value)
  | none => wrong (if given.positional then .invalidLength else .missingField)

/-- The value of a field, or what stands for it when it is left out. -/
def Given.withDefault {α : Type} (given : Given) (name : String) (decode : Value → Outcome α)
    (absent : α) : Outcome α :=
  match given.entries.lookup name with
  | some value => within name (decode value)
  | none => .ok absent

/-- The value of a field that may be left out of a table, but not of a list. -/
def Given.ifGiven {α : Type} (given : Given) (name : String) (decode : Value → Outcome α) :
    Outcome (Option α) :=
  match given.entries.lookup name with
  | some value => within name ((decode value).map some)
  | none => if given.positional then wrong .invalidLength else .ok none

end PluginBridge.Decode
