import FixtureFactory.Source.Grammar.Patterns

/-!
# Operators

How operands are joined.  Operators are told apart by their strength alone; an operator that is
stronger than the one before it takes the operand between them.
-/

namespace FixtureFactory
namespace Source
namespace Grammar

open Lookahead (operatorOnly oneOf oneOfOperators)

namespace Strength

/-- The strength below all operators. -/
def least : Strength := 0
/-- The strength of assignments. -/
def assignment : Strength := 1
/-- The strength of ranges. -/
def range : Strength := 2
/-- The strength of comparisons. -/
def comparison : Strength := 5
/-- The strength of conversions. -/
def conversion : Strength := 12

end Strength

/-- The operators between two operands with their strengths, longer ones first. -/
def binaryOperators : List (String × Strength) :=
  [("+=", 1), ("-=", 1), ("*=", 1), ("/=", 1), ("%=", 1), ("^=", 1), ("&=", 1), ("|=", 1),
   ("<<=", 1), (">>=", 1), ("&&", 4), ("||", 3), ("<<", 9), (">>", 9), ("==", 5), ("<=", 5),
   ("!=", 5), (">=", 5), ("+", 10), ("-", 10), ("*", 11), ("/", 11), ("%", 11), ("^", 7), ("&", 8),
   ("|", 6), ("<", 5), (">", 5)]

/-- The binary operator that comes next. -/
def binaryOperator? (trees : List TokenTree) : Option (String × Strength) :=
  binaryOperators.find? fun entry => Lookahead.operator entry.1 trees

/-- The strength of what comes next. -/
def strengthAhead (trees : List TokenTree) : Strength :=
  match binaryOperator? trees with
  | some entry => entry.2
  | none =>
      if operatorOnly "=" "=>" trees then Strength.assignment
      else if Lookahead.operator ".." trees then Strength.range
      else if Lookahead.word "as" trees then Strength.conversion
      else Strength.least

/-- The operand on the right of an operator, with all that binds more tightly. -/
def rightOperand (g : Grammar) (records : Bool) (strength : Strength) : Reader Unit := do
  let first ← g.operand records
  Reader.repeating first fun operand => do
    let c ← get
    let next := strengthAhead c.rest
    if next > strength || (next == strength && strength == Strength.assignment) then
      let operand ← g.continued records next operand
      if (← get).rest.length == c.rest.length then return .inr () else return .inl operand
    else return .inr ()

/-- Whether a range has no end. -/
def rangeEndsHere (records : Bool) : Lookahead := fun trees =>
  Lookahead.atEnd trees ||
    oneOfOperators [",", ";", "?", "=>", "=", "+", "/", "%", "^", ">", "<=", "!=", "-=", "*=",
      "&=", "|=", "<<="] trees ||
    operatorOnly "." ".." trees || (!records && Lookahead.group .brace trees)

/-- A range from its dots on. -/
def rangeTail (g : Grammar) (records : Bool) : Reader Unit := do
  let closed ← rangeDots false
  if !closed && (← Reader.ahead (rangeEndsHere records)) then return ()
  else rightOperand g records Strength.range

/-- What must not follow a conversion, because it would seem to belong to the type. -/
def afterConversion : Lookahead :=
  .or (operatorOnly "." "..")
    (.or (.operator "?") (.or (.group .bracket) (.group .parenthesis)))

/-- One operator with its right operand, unless what comes next binds less tightly than a
strength. -/
def oneOperator (g : Grammar) (records : Bool) (least : Strength) (left : Expression) :
    Reader (Option Expression) := do
  if left == .range then return none
  else
    let trees := (← get).rest
    match binaryOperator? trees with
    | some (text, strength) =>
        if strength < least then return none
        else if strength == Strength.comparison && left == .comparison then Reader.fail
        else
          Reader.operator text
          rightOperand g records strength
          return some (if strength == Strength.comparison then .comparison else .other)
    | none =>
        if Strength.assignment ≥ least && operatorOnly "=" "=>" trees then
          Reader.operator "="
          rightOperand g records Strength.assignment
          return some .other
        else if Strength.range ≥ least && Lookahead.operator ".." trees then
          rangeTail g records
          return some .range
        else if Strength.conversion ≥ least && Lookahead.word "as" trees then
          Reader.word "as"
          let _ ← g.type false
          if ← Reader.ahead afterConversion then Reader.fail
          return some .other
        else return none

/-- What follows an operand, down to a strength. -/
def operatorsFrom (g : Grammar) (records : Bool) (least : Strength) (left : Expression) :
    Reader Expression :=
  Reader.repeating left fun left => do
    match ← oneOperator g records least left with
    | some joined => return .inl joined
    | none => return .inr left

end Grammar
end Source
end FixtureFactory
