import PluginBridge.Toml.Number

/-! Dates and times of TOML. They are kept in one spelling: a capital T between
date and time, nine places of a second at most and no needless zeros in them,
and a capital Z or a signed offset. -/
namespace PluginBridge.Toml
open Text

/-- The number of exactly `count` decimal digits, and what follows. -/
def fixedNumber? (count : Nat) (text : List Char) : Option (Nat × List Char) :=
  let digits := text.take count
  if digits.length = count && digits.all Char.isDigit then
    some (numberIn 10 digits, text.drop count)
  else none

def padded (width number : Nat) : List Char :=
  let digits := Nat.toDigits 10 number
  List.replicate (width - digits.length) '0' ++ digits

def isLeapYear (year : Nat) : Bool :=
  year % 4 == 0 && (year % 100 != 0 || year % 400 == 0)

def daysIn (year month : Nat) : Nat :=
  if month = 2 then if isLeapYear year then 29 else 28
  else if month = 4 || month = 6 || month = 9 || month = 11 then 30
  else 31

/-- A date in its one spelling, and what follows it. -/
def date? (text : List Char) : Option (List Char × List Char) := do
  let (year, rest) ← fixedNumber? 4 text
  let '-' :: rest := rest | none
  let (month, rest) ← fixedNumber? 2 rest
  let '-' :: rest := rest | none
  let (day, rest) ← fixedNumber? 2 rest
  if 1 ≤ month && month ≤ 12 && 1 ≤ day && day ≤ daysIn year month then
    some (padded 4 year ++ ['-'] ++ padded 2 month ++ ['-'] ++ padded 2 day, rest)
  else none

/-- The places of a second that are kept, without trailing zeros. -/
def fraction (digits : List Char) : List Char :=
  let kept := ((digits.take 9).reverse.dropWhile (· == '0')).reverse
  if kept.isEmpty then [] else '.' :: kept

def time? (text : List Char) : Option (List Char × List Char) := do
  let (hour, rest) ← fixedNumber? 2 text
  let ':' :: rest := rest | none
  let (minute, rest) ← fixedNumber? 2 rest
  let ':' :: rest := rest | none
  let (second, rest) ← fixedNumber? 2 rest
  if hour ≤ 23 && minute ≤ 59 && second ≤ 60 then
    let spelt := padded 2 hour ++ [':'] ++ padded 2 minute ++ [':'] ++ padded 2 second
    match rest with
    | '.' :: more =>
      let digits := more.takeWhile Char.isDigit
      if digits.isEmpty then none else some (spelt ++ fraction digits, more.drop digits.length)
    | _ => some (spelt, rest)
  else none

/-- The offset of a time, if it has one. -/
def offset? : List Char → Option (List Char)
  | [] => some []
  | ['Z'] | ['z'] => some ['Z']
  | sign :: rest =>
    if sign = '+' || sign = '-' then do
      let (hour, rest) ← fixedNumber? 2 rest
      let ':' :: rest := rest | none
      let (minute, rest) ← fixedNumber? 2 rest
      if hour ≤ 23 && minute ≤ 59 && rest.isEmpty then
        let sign := if hour = 0 && minute = 0 then '+' else sign
        some (sign :: (padded 2 hour ++ [':'] ++ padded 2 minute))
      else none
    else none

/-- A time with or without offset, which is the whole text. -/
def timeWithOffset? (text : List Char) : Option (List Char) := do
  let (time, rest) ← time? text
  let offset ← offset? rest
  return time ++ offset

/-- The key under which a moment keeps its spelling. -/
def momentKey : String := "$__toml_private_datetime"

def moment (spelling : List Char) : Value :=
  .table [(momentKey, .text (String.ofList spelling))]

/-- A date, a time, or both in one word. -/
def moment? (word : List Char) : Option Value :=
  match date? word with
  | some (date, []) => some (moment date)
  | some (date, mark :: rest) =>
    if mark = 'T' || mark = 't' then
      (timeWithOffset? rest).map fun time => moment (date ++ ['T'] ++ time)
    else none
  | none =>
    match time? word with
    | some (time, []) => some (moment time)
    | _ => none

/-- Whether a date in this word may go on with a time after a blank. -/
def isDate (word : List Char) : Bool :=
  match date? word with
  | some (_, []) => true
  | _ => false

/-- A value without quotes or brackets, and what follows it. -/
def bareValue? (text : List Char) : Option (Value × List Char) :=
  let word := text.takeWhile isWordCharacter
  let rest := text.drop word.length
  let joined :=
    match rest with
    | ' ' :: c :: more =>
      if isDate word && c.isDigit then
        let time := (c :: more).takeWhile isWordCharacter
        some (word ++ ['T'] ++ time, (c :: more).drop time.length)
      else none
    | _ => none
  match joined with
  | some (word, rest) => (moment? word).map fun value => (value, rest)
  | none =>
    let value? :=
      if word = ['t', 'r', 'u', 'e'] then some (.flag true)
      else if word = ['f', 'a', 'l', 's', 'e'] then some (.flag false)
      else moment? word <|> real? word <|> whole? word
    value?.map fun value => (value, rest)

end PluginBridge.Toml
