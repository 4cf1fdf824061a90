/-!
# Plain text

Hexadecimal digits of a fixed count, sets of characters, text without the blanks at its ends, columns, and lines.
-/

namespace MetaParity

/-! ## Hexadecimal digits -/

namespace Hex

def digit (n : Nat) : Char :=
  if n < 10 then Char.ofNat (0x30 + n) else Char.ofNat (0x57 + n)

/-- The last `width` digits of a number, the most significant first. -/
def digits : Nat → Nat → List Char
  | 0, _ => []
  | width + 1, n => digits width (n / 16) ++ [digit (n % 16)]

def fixed (width n : Nat) : String :=
  String.ofList (digits width n)

def bytes (data : List UInt8) : String :=
  String.ofList (data.flatMap fun byte => digits 2 byte.toNat)

/-- A number after `0x`, without leading zeros. -/
def number (n : Nat) : String :=
  "0x" ++ String.ofList (Nat.toDigits 16 n)

end Hex

namespace Text

/-! ## Spans of code points -/

def inSpans (spans : List (Nat × Nat)) (point : Nat) : Bool :=
  spans.any fun span => span.1 ≤ point && point ≤ span.2

/-! ## Blank characters -/

/-- Code points of the property White_Space. -/
def blankSpans : List (Nat × Nat) :=
  [(0x9, 0xd), (0x20, 0x20), (0x85, 0x85), (0xa0, 0xa0), (0x1680, 0x1680), (0x2000, 0x200a),
   (0x2028, 0x2029), (0x202f, 0x202f), (0x205f, 0x205f), (0x3000, 0x3000)]

def isBlank (c : Char) : Bool :=
  inSpans blankSpans c.toNat

/-- The characters without the blanks before the first and after the last character that is none. -/
def trimBlanks (cs : List Char) : List Char :=
  ((cs.dropWhile isBlank).reverse.dropWhile isBlank).reverse

/-! ## Columns -/

def padding (width : Nat) (text : String) : String :=
  .ofList (List.replicate (width - text.length) ' ')

def alignLeft (width : Nat) (text : String) : String :=
  text ++ padding width text

def alignRight (width : Nat) (text : String) : String :=
  padding width text ++ text

/-! ## Lines -/

/-- A line read backwards, without a carriage return at its end. -/
def withoutReturn : List Char → List Char
  | '\r' :: line => line
  | line => line

/-- The lines of what follows, the first of which starts with `line` read backwards. -/
def linesAfter (line : List Char) : List Char → List (List Char)
  | [] => if line.isEmpty then [] else [line.reverse]
  | '\n' :: rest => (withoutReturn line).reverse :: linesAfter [] rest
  | c :: rest => linesAfter (c :: line) rest

/-- The lines of a text; nothing stands after the last line feed unless there is text. -/
def lines (text : String) : List String :=
  (linesAfter [] text.toList).map .ofList

end Text

end MetaParity
