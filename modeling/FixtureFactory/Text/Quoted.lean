import FixtureFactory.Text.Case
import FixtureFactory.Text.PrintableTable

/-!
# Quoted text

How a text is written as a string literal and a character as a character literal.  A quote, a
backslash and the four control characters that have a short name are escaped by a backslash;
every other character without a visible form becomes its code point in hexadecimal between
braces.  A combining character would attach itself to the opening quote, so at the start of the
text it is written by code point too; anywhere else it stands as it is.
-/

namespace FixtureFactory
namespace Text

/-- Whether a character is shown as it is. -/
def isPrintable (c : Char) : Bool :=
  if c.toNat < 128 then 32 ≤ c.toNat && c.toNat < 127 else !inRanges hiddenRanges c.toNat

/-- Whether a character extends the character before it. -/
def isCombining (c : Char) : Bool :=
  128 ≤ c.toNat && inRanges combiningRanges c.toNat

/-- A character by its code point. -/
def codeEscape (c : Char) : List Char :=
  ['\\', 'u', '\x7b'] ++ Nat.toDigits 16 c.toNat ++ ['\x7d']

/-- A character inside quotes of the kind `quote`; `atStart` if nothing stands before it. -/
def quoteChar (quote : Char) (atStart : Bool) (c : Char) : List Char :=
  if c = '\x00' then ['\\', '0']
  else if c = '\t' then ['\\', 't']
  else if c = '\r' then ['\\', 'r']
  else if c = '\n' then ['\\', 'n']
  else if c = '\\' || c = quote then ['\\', c]
  else if isPrintable c && !(atStart && isCombining c) then [c]
  else codeEscape c

/-- The body of a string literal. -/
def quoteBody : List Char → List Char
  | [] => []
  | c :: cs => quoteChar '"' true c ++ cs.flatMap (quoteChar '"' false)

end Text

/-- The text as a string literal. -/
def quoted (text : String) : String :=
  String.ofList ('"' :: Text.quoteBody text.toList ++ ['"'])

/-- The character as a character literal. -/
def quotedChar (c : Char) : String :=
  String.ofList ('\x27' :: Text.quoteChar '\x27' true c ++ ['\x27'])

end FixtureFactory
