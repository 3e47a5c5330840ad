import FixtureFactory.Text.CaseTable

/-!
# Letter case

Which characters are upper or lower case, and what each becomes in the other case.  Both questions
are asked one character at a time: no mapping looks at a neighbour, so the case of a text is the
concatenation of the cases of its characters.  A mapping may give more than one character.
-/

namespace FixtureFactory
namespace Text

/-- Whether a code point lies in one of the solid ranges. -/
def inRanges (table : List (Nat × Nat)) (code : Nat) : Bool :=
  table.any fun range => range.1 ≤ code && code ≤ range.2

/-- Whether a code point lies in one of the alternating ranges. -/
def inAlternating (table : List (Nat × Nat)) (code : Nat) : Bool :=
  table.any fun range => range.1 ≤ code && code ≤ range.2 && (code - range.1) % 2 == 0

/-- Whether a character has the property Uppercase. -/
def isUpper (c : Char) : Bool :=
  if c.toNat < 128 then c.isUpper
  else inRanges uppercaseRanges c.toNat || inAlternating uppercaseAlternating c.toNat

/-- Whether a character has the property Lowercase. -/
def isLower (c : Char) : Bool :=
  if c.toNat < 128 then c.isLower
  else inRanges lowercaseRanges c.toNat || inAlternating lowercaseAlternating c.toNat

/-- The target of a code point in the first run that holds it. -/
def runTarget? (table : List (Nat × Nat × Nat × Nat)) (code : Nat) : Option Nat :=
  table.findSome? fun (first, last, stride, target) =>
    if first ≤ code && code ≤ last && (code - first) % stride == 0
    then some (target + (code - first)) else none

/-- Case mapping past ASCII: the expansions first, then the runs, else the character itself. -/
def mapCase (expansions : List (Nat × List Nat)) (table : List (Nat × Nat × Nat × Nat))
    (c : Char) : List Char :=
  match expansions.lookup c.toNat with
  | some codes => codes.map Char.ofNat
  | none =>
      match runTarget? table c.toNat with
      | some code => [Char.ofNat code]
      | none => [c]

/-- The lower-case form of a character. -/
def lowerChar (c : Char) : List Char :=
  if c.toNat < 128 then [c.toLower] else mapCase lowerExpansions lowerRuns c

/-- The upper-case form of a character. -/
def upperChar (c : Char) : List Char :=
  if c.toNat < 128 then [c.toUpper] else mapCase upperExpansions upperRuns c

end Text
end FixtureFactory
