import PluginBridge.Decimal
import PluginBridge.Log.Pattern.Support
import PluginBridge.Text.Label
import PluginBridge.Text.Character
import PluginBridge.Text.Offset
import PluginBridge.Text.Segments

/-! Filter directives: a target, a span in brackets with fields in braces, and
after an equals sign a level, each of which may be left out. A directive ends at
its first comma.

Blanks around a directive are passed over when its parts are found, and the
places of the parts are counted from the first character that is no blank. Their
texts, however, are taken from the directive as it is written, at the same
places. So each blank in front moves the texts, and the blanks behind belong to
a level that nothing follows. -/
namespace PluginBridge.Log.Directive
open Text

def isNumber (text : List Char) : Bool :=
  let digits := match text with
    | '+' :: rest => rest
    | rest => rest
  !digits.isEmpty && digits.all Char.isDigit && Decimal.natOfDigits digits ≤ 5

/-- A level by its name in any letter case, or by its number. Nothing at all is
a level as well. -/
def isLevel (text : List Char) : Bool :=
  text.isEmpty || isNumber text ||
    ["off", "error", "warn", "info", "debug", "trace"].any (sameLabel (String.ofList text))

/-- Whether a text spells a floating number, or what arithmetic on them may give. -/
def isReal (text : List Char) : Bool :=
  let magnitude := match text with
    | '+' :: rest | '-' :: rest => rest
    | rest => rest
  (Decimal.ofText? text).isSome ||
    ["inf", "infinity", "nan"].any (sameLabel (String.ofList magnitude))

/-- A field's name, or its name and its value after an equals sign. The value is
a number or a pattern; a second equals sign ends it. -/
def isField (text : List Char) : Bool :=
  match cutAt '=' text with
  | _ :: value :: _ => isReal value || Pattern.isPattern value
  | _ => !text.isEmpty

def startsTarget (c : Char) : Bool :=
  c == '-' || c == ':' || c == '_' || isLetterOrNumeral c

/-- What is being read, with the place where a field or a level begins. -/
inductive Part where
  | start
  | levelOrTarget
  | span
  | field (first : Nat)
  | fields
  | target
  | level (first : Nat)
  | complete
deriving DecidableEq, Repr

/-- The part that the character at a place leads to. -/
def next? (directive : List Char) : Part → Nat × Char → Option Part
  | .start, (_, c) =>
    if c = '[' then some .span else if startsTarget c then some .levelOrTarget else none
  | .levelOrTarget, (place, c) =>
    if c = '=' then some (.level (place + 1))
    else if c = '[' then some .span
    else if c = ',' then some .complete
    else some .levelOrTarget
  | .target, (place, c) => if c = '=' then some (.level (place + 1)) else none
  | .span, (place, c) =>
    if c = ']' then some .target
    else if c = '\x7b' then some (.field (place + 1))
    else some .span
  | .field first, (place, c) =>
    if c = '\x7d' || c = ',' then
      if (slice? first place directive).any isField then
        some (if c = ',' then .field (place + 1) else .fields)
      else none
    else some (.field first)
  | .fields, (_, c) => if c = ']' then some .target else none
  | .level first, (place, c) =>
    if c = ',' then
      if (slice? first place directive).any isLevel then some .complete else none
    else some (.level first)
  | .complete, _ => none

/-- Whether a directive may end in a part. -/
def mayEnd (directive : List Char) : Part → Bool
  | .levelOrTarget | .target | .complete => true
  | .level first => (dropBytes? first directive).any isLevel
  | .start | .span | .field _ | .fields => false

def isValid (directive : String) : Bool :=
  let chars := directive.toList
  ((places 0 (trim chars)).foldlM (next? chars) Part.start).any (mayEnd chars)

end PluginBridge.Log.Directive
