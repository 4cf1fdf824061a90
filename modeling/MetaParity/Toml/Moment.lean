import MetaParity.Toml.Number

/-!
# Dates and times

Which words are dates, times of day, or a date and a time together, with or without the offset of a time zone.
-/

namespace MetaParity.Toml

def expect? (c : Char) : List Char → Option (List Char)
  | first :: rest => if first = c then some rest else none
  | [] => none

def daysIn (year month : Nat) : Nat :=
  if month = 2 then
    if year % 4 = 0 ∧ (year % 100 ≠ 0 ∨ year % 400 = 0) then 29 else 28
  else if month = 4 ∨ month = 6 ∨ month = 9 ∨ month = 11 then 30
  else 31

def skipDate? (text : List Char) : Option (List Char) := do
  let (year, rest) ← fixedDigits? 4 text
  let (month, rest) ← fixedDigits? 2 (← expect? '-' rest)
  let (day, rest) ← fixedDigits? 2 (← expect? '-' rest)
  if 1 ≤ month ∧ month ≤ 12 ∧ 1 ≤ day ∧ day ≤ daysIn year month then return rest else failure

def skipMinutes? (text : List Char) : Option (List Char) := do
  let (hour, rest) ← fixedDigits? 2 text
  let (minute, rest) ← fixedDigits? 2 (← expect? ':' rest)
  if hour < 24 ∧ minute < 60 then return rest else failure

/-- Text behind a time of day: hour, minute, second and perhaps a fraction of it. A minute may have a leap second. -/
def skipTime? (text : List Char) : Option (List Char) := do
  let (second, rest) ← fixedDigits? 2 (← expect? ':' (← skipMinutes? text))
  if 60 < second then failure
  match rest with
  | '.' :: c :: rest => if c.isDigit then return rest.dropWhile Char.isDigit else failure
  | rest => return rest

/-- Whether a text is nothing, or the offset of a time zone. -/
def isOffset : List Char → Bool
  | [] | ['Z'] | ['z'] => true
  | sign :: rest => (sign = '+' || sign = '-') && skipMinutes? rest == some []

def isDate (word : List Char) : Bool :=
  skipDate? word == some []

def isOffsetTime (word : List Char) : Bool :=
  (skipTime? word).any isOffset

/-- Whether a word is a date, a time of day, or both joined by a letter; only the last may have an offset. -/
def isMoment (word : List Char) : Bool :=
  skipTime? word == some [] ||
    match skipDate? word with
    | none => false
    | some [] => true
    | some (c :: rest) => (c = 'T' || c = 't') && isOffsetTime rest

end MetaParity.Toml
