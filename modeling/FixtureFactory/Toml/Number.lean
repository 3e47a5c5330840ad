import FixtureFactory.Toml.Value

/-!
# Numbers of TOML

Decimal text becomes the nearest number of double precision.  An exponent may have any number of
digits, so a number that is out of range by far is settled by its order of magnitude alone.
-/

namespace FixtureFactory
namespace Toml

/-- The value of a list of digits in a base. -/
def digitsIn (base : Nat) (digits : List Nat) : Nat := digits.foldl (fun n d => base * n + d) 0

/-- The double nearest to `digits * 10 ^ exponent`. -/
def FloatValue.ofDecimal (negative : Bool) (digits : List Nat) (exponent : Int) : FloatValue :=
  let significant := digits.dropWhile (· == 0)
  let magnitude : Int := significant.length + exponent
  if significant.isEmpty || magnitude < -400 then .finite negative ⟨0, Decimal.double.minExponent⟩
  else if magnitude > 400 then .infinite negative
  else
    let (num, den) := Decimal.scaleTen (digitsIn 10 significant) 1 exponent
    let number := Decimal.double.round num den
    if number.exponent > 971 then .infinite negative else .finite negative number

/-- The text of a floating-point number: positional, with at least one digit after the point. -/
def FloatValue.text : FloatValue → String
  | finite negative number =>
      (if negative then "-" else "") ++ (Decimal.double.shortest number).positional
  | infinite negative => if negative then "-inf" else "inf"
  | nan negative => if negative then "-nan" else "nan"

end Toml
end FixtureFactory
