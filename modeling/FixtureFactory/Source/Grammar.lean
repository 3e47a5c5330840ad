import FixtureFactory.Source.Item
import FixtureFactory.Source.Reader

/-!
# The grammar as a whole

Types hold expressions, expressions hold patterns, statements and items, and all of them hold
types.  The rules are written one family a module against this record of entry points, and the
knot is tied at the end: a grammar of some depth answers each entry point by the rules over a
grammar that is one less deep.  Before the same entry point comes back with nothing read in
between only the others can be passed, so a multiple of the number of tokens is deep enough for any
text.
-/

namespace FixtureFactory
namespace Source

/-- The forms of expression that the rules tell apart. -/
inductive Expression where
  /-- A range, which no operator may follow. -/
  | range
  /-- A comparison, which no comparison may follow. -/
  | comparison
  /-- A block or a control structure: it needs nothing to separate it from what follows. -/
  | blockLike
  /-- A macro call in curly brackets. -/
  | braceCall
  | other
  deriving Inhabited, DecidableEq, Repr

/-- How tightly an operator binds. -/
abbrev Strength := Nat

/-- The forms of pattern that the rules tell apart. -/
inductive Pattern where
  /-- A range that lacks an end, with the place of its dots. -/
  | openRange (dots : Position)
  /-- Two dots on their own. -/
  | remainder
  | other
  deriving Inhabited, DecidableEq, Repr

/-- The forms of bound that the rules tell apart. -/
inductive Bound where
  | lifetime
  /-- A list of captured names. -/
  | capture
  | trait
  deriving Inhabited, DecidableEq, Repr

/-- What a bound may hold, by where it stands. -/
structure BoundRules where
  capture : Bool
  const : Bool

/-- The entry points of the grammar. -/
structure Grammar where
  /-- A type; the flag says whether it may be a sum of bounds. -/
  type : Bool → Reader TypeTerm
  /-- A bound. -/
  bound : BoundRules → Reader Bound
  /-- An expression; the flag says whether it may be the literal of a record. -/
  expression : Bool → Reader Expression
  /-- An operand, with the operators before it. -/
  operand : Bool → Reader Expression
  /-- What follows an operand, down to a strength. -/
  continued : Bool → Strength → Expression → Reader Expression
  /-- An expression that ends with its block if it starts with one. -/
  early : Reader Expression
  /-- A pattern without alternatives. -/
  pattern : Reader Pattern
  /-- The statements that fill the present group. -/
  statements : Reader Unit
  /-- Fields with names, in their brackets. -/
  fields : Reader (List (String × TypeTerm))
  /-- An item, from its visibility on. -/
  item : List Attribute → Reader Item
  /-- The tree of an import.  The flag says whether its paths may start at the root, and the
  answer is `none` if one of them does. -/
  useTree : Bool → Reader (Option UseTree)

/-- The grammar of depth zero, which accepts nothing. -/
def Grammar.empty : Grammar where
  type _ := Reader.fail
  bound _ := Reader.fail
  expression _ := Reader.fail
  operand _ := Reader.fail
  continued _ _ _ := Reader.fail
  early := Reader.fail
  pattern := Reader.fail
  statements := Reader.fail
  fields := Reader.fail
  item _ := Reader.fail
  useTree _ := Reader.fail

end Source
end FixtureFactory
