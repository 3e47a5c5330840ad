/-!
# Shortest decimals of binary numbers

A binary number of a format with precision `p` is `m * 2 ^ q` with `m < 2 ^ p`.  This module
rounds a ratio to the nearest such number, a tie to an even `m`, and finds the decimal with the
fewest digits that rounds back to it, the nearest one if several have that few.

Everything is exact arithmetic on natural numbers.  For one digit, two digits and so on, the two
decimals of that many digits around the number are tried; the interval of the reals that round to
the number decides whether they read back.
-/

namespace FixtureFactory
namespace Decimal

/-- A binary floating-point format: the bits of a significand and the least exponent. -/
structure BinaryFormat where
  precision : Nat
  minExponent : Int
  deriving Inhabited, DecidableEq, Repr

/-- The least number that is too large for a significand. -/
def BinaryFormat.limit (f : BinaryFormat) : Nat := 1 <<< f.precision

/-- Single precision. -/
def single : BinaryFormat := ⟨24, -149⟩

/-- Double precision. -/
def double : BinaryFormat := ⟨53, -1074⟩

/-- The number `significand * 2 ^ exponent`. -/
structure Binary where
  significand : Nat
  exponent : Int
  deriving Inhabited, DecidableEq, Repr

/-- A quotient rounded to the nearest integer, a tie to the even one. -/
def roundDiv (num den : Nat) : Nat :=
  let quotient := num / den
  let twice := 2 * (num % den)
  if twice < den then quotient
  else if den < twice then quotient + 1
  else if quotient % 2 = 0 then quotient else quotient + 1

/-- The ratio `num / den` divided by `2 ^ exponent`, as a ratio. -/
def scaleDown (num den : Nat) (exponent : Int) : Nat × Nat :=
  if 0 ≤ exponent then (num, den <<< exponent.toNat)
  else (num <<< (-exponent).toNat, den)

/-- The number of a format that is nearest to the ratio `num / den`. -/
def BinaryFormat.round (f : BinaryFormat) (num den : Nat) : Binary :=
  if num = 0 then ⟨0, f.minExponent⟩
  else
    let estimate : Int := (Nat.log2 num : Int) - (Nat.log2 den : Int) - (f.precision : Int)
    let wide := scaleDown num den estimate
    let exponent := if wide.1 / wide.2 < f.limit then estimate else estimate + 1
    let exponent := if exponent < f.minExponent then f.minExponent else exponent
    let scaled := scaleDown num den exponent
    let m := roundDiv scaled.1 scaled.2
    if m = f.limit then ⟨m / 2, exponent + 1⟩ else ⟨m, exponent⟩

/-- A decimal `0.d₁d₂… * 10 ^ point`. -/
structure Digits where
  digits : List Nat
  point : Int
  deriving Inhabited, DecidableEq, Repr

/-- The ratio `numerator * 10 ^ k / denominator`. -/
def scaleTen (num den : Nat) (k : Int) : Nat × Nat :=
  if 0 ≤ k then (num * Nat.pow 10 k.toNat, den) else (num, den * Nat.pow 10 (-k).toNat)

/-- The least `k` with `num / den < 10 ^ k`, searched upwards for `fuel` steps. -/
def decimalPoint (num den : Nat) : Nat → Int → Int
  | 0, k => k
  | fuel + 1, k =>
      let scaled := scaleTen num den (-k)
      if scaled.1 < scaled.2 then k else decimalPoint num den fuel (k + 1)

/-- The digits of a number in base ten. -/
def digitsOf (n : Nat) : List Nat := (Nat.toDigits 10 n).map fun c => c.toNat - 48

/-- A list without the zeros at its end. -/
def dropTrailingZeros (digits : List Nat) : List Nat :=
  (digits.reverse.dropWhile (· == 0)).reverse

/-- The interval of the reals that round to a number, in units of a quarter of its last place,
with whether its ends belong to it. -/
def BinaryFormat.interval (f : BinaryFormat) (b : Binary) : Nat × Nat × Bool :=
  let m := b.significand
  let low :=
    if 2 * m = f.limit && f.minExponent < b.exponent then 4 * m - 1 else 4 * m - 2
  (low, 4 * m + 2, m % 2 = 0)

/-- The integer among the two neighbours of `value` that lies in the interval, the nearer one if
both do.  All three are ratios over `den`. -/
def neighbourIn? (low value high den : Nat) (closed : Bool) : Option Nat :=
  let down := value / den
  let inside (n : Nat) : Bool :=
    if closed then low ≤ n * den && n * den ≤ high else low < n * den && n * den < high
  let up := down + 1
  match inside down, inside up with
  | true, true => some (if 2 * (value - down * den) ≤ den then down else up)
  | true, false => some down
  | false, true => some up
  | false, false => none

/-- The shortest decimal that reads back, searched from `count` digits on for `fuel` steps. -/
def shortestFrom (low value high den : Nat) (closed : Bool) (point : Int) :
    Nat → Nat → Digits
  | 0, _ => ⟨[], 0⟩
  | fuel + 1, count =>
      let k : Int := count - point
      let grid := scaleTen 1 den k
      match neighbourIn? (low * grid.1) (value * grid.1) (high * grid.1) grid.2 closed with
      | some n =>
          let digits := digitsOf n
          ⟨dropTrailingZeros digits, point + digits.length - count⟩
      | none => shortestFrom low value high den closed point fuel (count + 1)

/-- The shortest decimal that rounds to a number of the format; zero has no digits. -/
def BinaryFormat.shortest (f : BinaryFormat) (b : Binary) : Digits :=
  if b.significand = 0 then ⟨[], 0⟩
  else
    let (low, high, closed) := f.interval b
    let unit := scaleDown 1 4 (-b.exponent)
    let value := 4 * b.significand
    let estimate : Int :=
      ((Nat.log2 b.significand : Int) + b.exponent) * 30103 / 100000 - 1
    let point := decimalPoint (value * unit.1) unit.2 8 estimate
    shortestFrom (low * unit.1) (value * unit.1) (high * unit.1) unit.2 closed point
      (f.precision + 2) 1

/-- The characters of a list of digits. -/
def digitText (digits : List Nat) : List Char := digits.map fun d => Char.ofNat (48 + d)

/-- Positional notation, with at least one digit on each side of the point. -/
def Digits.positional (d : Digits) : String :=
  String.ofList <|
    if d.digits.isEmpty then ['0', '.', '0']
    else if d.point ≤ 0 then
      ['0', '.'] ++ List.replicate (-d.point).toNat '0' ++ digitText d.digits
    else
      let whole := d.point.toNat
      if d.digits.length ≤ whole then
        digitText d.digits ++ List.replicate (whole - d.digits.length) '0' ++ ['.', '0']
      else digitText (d.digits.take whole) ++ ['.'] ++ digitText (d.digits.drop whole)

/-- Scientific notation: one digit before the point, which is left out if no digit follows. -/
def Digits.scientific (d : Digits) : String :=
  let fraction := digitText (d.digits.drop 1)
  String.ofList (digitText (d.digits.take 1) ++ (if fraction.isEmpty then [] else '.' :: fraction))
    ++ s!"e{d.point - 1}"

/-- Positional notation from one ten-thousandth up to ten to the sixteenth, scientific notation
outside. -/
def Digits.general (d : Digits) : String :=
  if d.digits.isEmpty || (-4 < d.point && d.point ≤ 16) then d.positional else d.scientific

end Decimal
end FixtureFactory
