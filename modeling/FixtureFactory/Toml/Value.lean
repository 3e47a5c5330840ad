import FixtureFactory.Decimal.Shortest

/-!
# TOML values

The values of a TOML document.  Floating-point numbers are kept exactly, as a sign and a binary
number of double precision, and dates and times by their normal text.
-/

namespace FixtureFactory
namespace Toml

/-- A floating-point number; the flag says whether it is negative. -/
inductive FloatValue where
  | finite (negative : Bool) (number : Decimal.Binary)
  | infinite (negative : Bool)
  | nan (negative : Bool)
  deriving Inhabited, DecidableEq, Repr

/-- A value of a TOML document.  The entries of a table stand in the order of their keys. -/
inductive Value where
  | string (text : String)
  | integer (number : Int)
  | float (number : FloatValue)
  | boolean (flag : Bool)
  | moment (text : String)
  | array (items : List Value)
  | table (entries : List (String × Value))
  deriving Inhabited, Repr

/-- The value at a key, if the value is a table that has it. -/
def Value.get? (key : String) : Value → Option Value
  | .table entries => entries.lookup key
  | _ => none

end Toml
end FixtureFactory
