/-!
# Decimals of floating-point numbers

The exact value of a 64-bit binary floating-point number, read off its bits, and two decimals of it: one with a fixed
count of places, rounded once with a tie to the even digit, and the shortest that reads back, the nearest of those. The
latter is searched for on ever finer decimal grids: if a grid has a point that reads back, then one of the two grid
points around the number does.
-/

namespace MetaParity.Decimal

/-! ## Exact values -/

/-- A floating-point number as what it stands for. A finite one is `mantissa * 2 ^ exponent`, with a sign. -/
inductive Binary64 where
  | finite (negative : Bool) (mantissa : Nat) (exponent : Int)
  | infinite (negative : Bool)
  | nan
deriving DecidableEq

def leastNormal : Nat := 0x10000000000000

namespace Binary64

def ofBits (bits : UInt64) : Binary64 :=
  let negative := bits >>> 63 == 1
  let biased := (bits >>> 52 &&& 0x7ff).toNat
  let fraction := (bits &&& 0xfffffffffffff).toNat
  if biased = 0x7ff then if fraction = 0 then infinite negative else nan
  else if biased = 0 then finite negative fraction (-1074)
  else finite negative (leastNormal + fraction) ((biased : Int) - 1075)

def ofFloat (x : Float) : Binary64 :=
  ofBits x.toBits

end Binary64

def fraction (mantissa : Nat) (exponent : Int) : Nat × Nat :=
  (mantissa * Nat.pow 2 exponent.toNat, Nat.pow 2 (-exponent).toNat)

/-! ## Fixed places -/

/-- The quotient rounded to the nearest natural number, a tie to the even one. -/
def roundDiv (num den : Nat) : Nat :=
  let quotient := num / den
  let rest := num % den
  if 2 * rest < den then quotient
  else if 2 * rest > den then quotient + 1
  else quotient + quotient % 2

def placed (places scaled : Nat) : List Char :=
  let digits := Nat.toDigits 10 scaled
  let padded := List.replicate (places + 1 - digits.length) '0' ++ digits
  let whole := padded.take (padded.length - places)
  if places = 0 then whole else whole ++ '.' :: padded.drop (padded.length - places)

/-- A number with a fixed count of places; infinities and undefined values are words. -/
def fixedPlaces (places : Nat) (x : Float) : String :=
  match Binary64.ofFloat x with
  | .nan => "NaN"
  | .infinite negative => if negative then "-inf" else "inf"
  | .finite negative mantissa exponent =>
    let (num, den) := fraction mantissa exponent
    .ofList ((if negative then ['-'] else []) ++ placed places (roundDiv (num * Nat.pow 10 places) den))

/-! ## Shortest decimals -/

/-- The interval of values that read back as a number, as multiples of a quarter of the number's unit; its ends belong
to it when the mantissa is even. -/
structure Readback where
  low : Nat
  high : Nat
  closed : Bool

/-- What reads back as `mantissa * 2 ^ exponent`. Below the least mantissa of a binade the numbers lie twice as close. -/
def Readback.of (mantissa : Nat) (exponent : Int) : Readback :=
  let below := if mantissa = leastNormal ∧ exponent > -1074 then 1 else 2
  ⟨4 * mantissa - below, 4 * mantissa + 2, mantissa % 2 == 0⟩

/-- Whether `digits * 10 ^ power` lies in the interval, whose unit is `2 ^ (exponent - 2)`. -/
def Readback.holds (interval : Readback) (exponent : Int) (digits : Nat) (power : Int) : Bool :=
  let (num, den) := fraction 1 (exponent - 2)
  let value := digits * Nat.pow 10 power.toNat * den
  let unit := num * Nat.pow 10 (-power).toNat
  if interval.closed then interval.low * unit ≤ value && value ≤ interval.high * unit
  else interval.low * unit < value && value < interval.high * unit

/-- The least power of ten, from `10 ^ count` on, that lifts the fraction to one or more; gives up after `fuel`. -/
def liftingPower (num den : Nat) : Nat → Nat → Nat
  | 0, count => count
  | fuel + 1, count => if den ≤ num * Nat.pow 10 count then count else liftingPower num den fuel (count + 1)

def leadingPower (num den : Nat) : Int :=
  if den ≤ num then (Nat.toDigits 10 (num / den)).length - 1
  else -(liftingPower num den 400 1 : Nat)

structure Digits where
  digits : List Char
  power : Int

/-- The digits without zeros at the end; at least one digit stays. -/
def dropZeros (digits : List Char) : List Char :=
  match (digits.reverse.dropWhile (· == '0')).reverse with
  | [] => ['0']
  | kept => kept

/-- Searches the grids of `count` digits and more, `fuel` of them; the last grid holds the number's nearest point. -/
def shortestFrom (mantissa : Nat) (exponent : Int) (leading : Int) : Nat → Nat → Digits
  | 0, _ => ⟨['0'], 0⟩
  | fuel + 1, count =>
    let power := leading - (count - 1 : Nat)
    let (num, den) := fraction mantissa exponent
    let scaled := num * Nat.pow 10 (-power).toNat
    let unit := den * Nat.pow 10 power.toNat
    let floor := scaled / unit
    let rest := scaled % unit
    let interval := Readback.of mantissa exponent
    let lower := interval.holds exponent floor power
    let upper := interval.holds exponent (floor + 1) power
    let chosen :=
      if lower && upper then
        if 2 * rest < unit then some floor
        else if 2 * rest > unit then some (floor + 1)
        else some (floor + floor % 2)
      else if lower then some floor
      else if upper then some (floor + 1)
      else none
    match chosen with
    | some digits =>
      let text := Nat.toDigits 10 digits
      ⟨dropZeros text, power + (text.length - 1 : Nat)⟩
    | none => shortestFrom mantissa exponent leading fuel (count + 1)

def shortest (mantissa : Nat) (exponent : Int) : Digits :=
  let (num, den) := fraction mantissa exponent
  shortestFrom mantissa exponent (leadingPower num den) 17 1

end MetaParity.Decimal
