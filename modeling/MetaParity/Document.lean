import MetaParity.Decimal
import MetaParity.Text.Basic

/-!
# JSON documents

The values that reports are made of, and their pretty-printed text: two blanks for each level, one member or element a
line, empty arrays and objects on one line.
-/

namespace MetaParity

inductive Document where
  | null
  | bool (value : Bool)
  | integer (value : Int)
  | float (value : Float)
  | string (value : String)
  | array (elements : List Document)
  | object (members : List (String × Document))

namespace Document

def ofOption (encode : α → Document) : Option α → Document
  | none => null
  | some value => encode value

def nat (value : Nat) : Document :=
  integer value

/-- How one character is written inside a string: only quotes, backslashes and control characters are escaped. -/
def escaped (c : Char) : List Char :=
  match c with
  | '"' => ['\\', '"']
  | '\\' => ['\\', '\\']
  | '\x08' => ['\\', 'b']
  | '\t' => ['\\', 't']
  | '\n' => ['\\', 'n']
  | '\x0c' => ['\\', 'f']
  | '\r' => ['\\', 'r']
  | c => if c.toNat < 0x20 then '\\' :: 'u' :: Hex.digits 4 c.toNat else [c]

def stringText (text : String) : String :=
  .ofList ('"' :: text.toList.flatMap escaped ++ ['"'])

def integerText (n : Int) : String :=
  if n < 0 then "-" ++ Nat.repr n.natAbs else Nat.repr n.natAbs

/-- Digits whose first stands for a power of ten. Powers from -5 to 15 are written with a point, all others with an
exponent. -/
def digitsText (number : Decimal.Digits) : List Char :=
  let { digits, power } := number
  if -5 ≤ power ∧ power < 0 then
    '0' :: '.' :: List.replicate (-power - 1).toNat '0' ++ digits
  else if 0 ≤ power ∧ power < 16 then
    let whole := power.toNat + 1
    let padded := digits ++ List.replicate (whole - digits.length) '0'
    let rest := padded.drop whole
    padded.take whole ++ '.' :: (if rest.isEmpty then ['0'] else rest)
  else
    let mantissa := match digits with
      | first :: second :: rest => first :: '.' :: second :: rest
      | short => short
    mantissa ++ 'e' :: (if power < 0 then '-' else '+') :: Nat.toDigits 10 power.natAbs

/-- A floating-point number by its shortest digits; what is not finite is null. -/
def floatText (x : Float) : String :=
  match Decimal.Binary64.ofFloat x with
  | .finite negative mantissa exponent =>
    let unsigned := if mantissa = 0 then ['0', '.', '0'] else digitsText (Decimal.shortest mantissa exponent)
    .ofList (if negative then '-' :: unsigned else unsigned)
  | _ => "null"

def breakTo (level : Nat) : String :=
  .ofList ('\n' :: List.replicate (2 * level) ' ')

mutual

def textAt (level : Nat) : Document → String
  | null => "null"
  | bool value => if value then "true" else "false"
  | integer value => integerText value
  | float value => floatText value
  | string value => stringText value
  | array [] => "[]"
  | array (element :: rest) =>
    "[" ++ breakTo (level + 1) ++ textAt (level + 1) element ++ elementsText level rest ++ breakTo level ++ "]"
  | object [] => "\x7b\x7d"
  | object ((name, value) :: rest) =>
    "\x7b" ++ breakTo (level + 1) ++ stringText name ++ ": " ++ textAt (level + 1) value
      ++ membersText level rest ++ breakTo level ++ "\x7d"

def elementsText (level : Nat) : List Document → String
  | [] => ""
  | element :: rest => "," ++ breakTo (level + 1) ++ textAt (level + 1) element ++ elementsText level rest

def membersText (level : Nat) : List (String × Document) → String
  | [] => ""
  | (name, value) :: rest =>
    "," ++ breakTo (level + 1) ++ stringText name ++ ": " ++ textAt (level + 1) value ++ membersText level rest

end

def pretty (document : Document) : String :=
  textAt 0 document

end Document

end MetaParity
