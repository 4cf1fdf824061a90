/-!
# Numbers

Readers, which take characters from the front of a text and answer what is left of it; which words are integers, with
their values, and which are numbers with a fraction or a power of ten.
-/

namespace MetaParity.Toml

/-! ## Readers -/

/-- Reads a value from the front of a text, if there is one. -/
abbrev Reader (α : Type) := List Char → Option (α × List Char)

def isBlank (c : Char) : Bool := c = ' ' || c = '\t'

def skipBlanks (text : List Char) : List Char := text.dropWhile isBlank

def lineBreak? : List Char → Option (List Char)
  | '\n' :: rest => some rest
  | '\r' :: '\n' :: rest => some rest
  | _ => none

def hexValue? (c : Char) : Option Nat :=
  if '0' ≤ c ∧ c ≤ '9' then some (c.toNat - 0x30)
  else if 'a' ≤ c ∧ c ≤ 'f' then some (c.toNat - 0x57)
  else if 'A' ≤ c ∧ c ≤ 'F' then some (c.toNat - 0x37)
  else none

/-- The number that exactly `count` decimal digits at the front of a text make up. -/
def fixedDigits? (count : Nat) : Reader Nat := fun text =>
  let digits := text.take count
  if digits.length = count ∧ digits.all Char.isDigit then
    some (digits.foldl (fun number c => 10 * number + (c.toNat - 0x30)) 0, text.drop count)
  else none

/-! ## Numbers -/

/-- The number that digits make up in a base; underscores may stand between two digits. -/
def digits? (base : Nat) (text : List Char) : Option Nat :=
  let rec go (number : Nat) (afterDigit : Bool) : List Char → Option Nat
    | [] => if afterDigit then some number else none
    | '_' :: rest => if afterDigit then go number false rest else none
    | c :: rest =>
      match hexValue? c with
      | some digit => if digit < base then go (base * number + digit) true rest else none
      | none => none
  go 0 false text

/-- A decimal number without zeros in front. -/
def decimal? (text : List Char) : Option Nat :=
  match text with
  | '0' :: _ :: _ => none
  | text => digits? 10 text

/-- The integer that a word denotes; it fits sixty-four bits. -/
def integerOf? (word : List Char) : Option Int := do
  let value : Int ← match word with
    | '0' :: 'x' :: rest => (digits? 16 rest).map Int.ofNat
    | '0' :: 'o' :: rest => (digits? 8 rest).map Int.ofNat
    | '0' :: 'b' :: rest => (digits? 2 rest).map Int.ofNat
    | '+' :: rest => (decimal? rest).map Int.ofNat
    | '-' :: rest => (decimal? rest).map (-Int.ofNat ·)
    | word => (decimal? word).map Int.ofNat
  if -0x8000000000000000 ≤ value ∧ value < 0x8000000000000000 then return value else failure

def splitSign : List Char → Bool × List Char
  | '+' :: rest => (false, rest)
  | '-' :: rest => (true, rest)
  | text => (false, text)

def isNumeral (c : Char) : Bool := c.isDigit || c = '_'

/-- The power of ten that ends a number; none is the zeroth. -/
def exponent? : List Char → Option Int
  | [] => some 0
  | c :: rest =>
    if c = 'e' ∨ c = 'E' then
      let (negative, digits) := splitSign rest
      (digits? 10 digits).map fun power => if negative then -Int.ofNat power else Int.ofNat power
    else none

/-- A number without its sign, `mantissa * 10 ^ power`, as written with a fraction, a power of ten or both. -/
def scaled? (text : List Char) : Option (Nat × Int) := do
  let whole ← decimal? (text.takeWhile isNumeral)
  match text.dropWhile isNumeral with
  | [] => failure
  | '.' :: rest =>
    let places := rest.takeWhile isNumeral
    let fraction ← digits? 10 places
    let count := (places.filter Char.isDigit).length
    return (whole * Nat.pow 10 count + fraction, (← exponent? (rest.dropWhile isNumeral)) - count)
  | rest => return (whole, ← exponent? rest)

/-- The least number that no 64-bit float stands for, as it would be rounded to infinity: `2 ^ 1024 - 2 ^ 970`. -/
def leastInfinite : Nat := 0x3fffffffffffff * Nat.pow 2 970

/-- Whether `mantissa * 10 ^ power` is beyond the floats. A number of more than 309 places before the point is, and one
of fewer is not. -/
def isInfinite (mantissa : Nat) (power : Int) : Bool :=
  let places := (Nat.toDigits 10 mantissa).length + power
  if mantissa = 0 ∨ places < 309 then false
  else if 309 < places then true
  else leastInfinite * Nat.pow 10 (-power).toNat ≤ mantissa * Nat.pow 10 power.toNat

/-- Whether a word is a float. A number beyond the floats is accepted if it is negative. -/
def isFloat (word : List Char) : Bool :=
  let (negative, text) := splitSign word
  match String.ofList text with
  | "inf" | "nan" => true
  | _ =>
    match scaled? text with
    | some (mantissa, power) => negative || !isInfinite mantissa power
    | none => false

end MetaParity.Toml
