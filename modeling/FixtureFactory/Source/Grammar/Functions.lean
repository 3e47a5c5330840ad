import FixtureFactory.Source.Grammar.Statements

/-!
# Functions

The head of a function: what may stand before its name, its parameters and its result.
-/

namespace FixtureFactory
namespace Source
namespace Grammar

open Lookahead (operatorOnly oneOf oneOfOperators)

/-- The words that may stand before a function, in their order, with a question about what may
stand in the place of `unsafe`. -/
def functionWords (trees : List TokenTree) (safe : Bool) : List TokenTree :=
  let skip (word : String) (trees : List TokenTree) :=
    if Lookahead.word word trees then trees.drop 1 else trees
  let trees := skip "async" (skip "const" trees)
  let trees := if safe && Lookahead.word "safe" trees then trees.drop 1 else skip "unsafe" trees
  if Lookahead.word "extern" trees then
    let trees := trees.drop 1
    if Lookahead.literalOf .string trees then trees.drop 1 else trees
  else trees

/-- Whether a function comes next. -/
def functionAhead (safe : Bool) : Lookahead := fun trees =>
  Lookahead.word "fn" (functionWords trees safe)

/-- The name of a declaration. -/
def declaredName : Reader Name := do
  let position ← Reader.here
  return ⟨← Reader.name, position⟩

/-- The receiver of a method, and its place. -/
def receiver (g : Grammar) : Reader Position := do
  let reference ← Reader.operator? "&"
  if reference then do let _ ← Reader.lifetime?
  let _ ← Reader.word? "mut"
  let position ← Reader.here
  Reader.word "self"
  if !reference then
    if ← Reader.operator? ":" then do let _ ← g.type true
  return position

/-- A parameter that is no receiver; whether it stands for any further ones. -/
def typedParameter (g : Grammar) : Reader Bool := do
  if ← Reader.ahead (.and .name (.next (.operator "<"))) then
    let _ ← g.type true
    return false
  else
    let _ ← g.pattern
    Reader.operator ":"
    if ← Reader.operator? "..." then return true
    else
      let _ ← g.type true
      return false

/-- A parameter after some others; whether it stands for any further ones.  A receiver is only
allowed in front. -/
def functionParameter (g : Grammar) (before : Nat) : Reader Bool := do
  let _ ← outerAttributes g
  if ← Reader.operator? "..." then return true
  else
    match ← Reader.attempt (receiver g) with
    | some position => if before > 0 then Reader.failAt position else return false
    | none => typedParameter g

/-- The parameters that fill the present group: how many there are, further ones not counted. -/
def functionParameters (g : Grammar) : Reader Nat :=
  Reader.repeating 0 fun count => do
    if ← Reader.done then return .inr count
    else
      let further ← functionParameter g count
      let count := if further then count else count + 1
      if ← Reader.done then return .inr count
      else
        Reader.operator ","
        if further then return .inr count else return .inl count

/-- The head of a function. -/
def signature (g : Grammar) (safe : Bool) : Reader Function := do
  let _ ← Reader.word? "const"
  let _ ← Reader.word? "async"
  if safe && (← Reader.ahead (.word "safe")) then Reader.word "safe"
  else do let _ ← Reader.word? "unsafe"
  let _ ← interface?
  Reader.word "fn"
  let name ← declaredName
  parameters g
  let count ← Reader.group .parenthesis (functionParameters g)
  let result ← result? g true
  let _ ← conditions? g
  return ⟨[], name, count, result⟩

/-- The body of a function: the attributes at its start. -/
def functionBody (g : Grammar) : Reader (List Attribute) :=
  Reader.group .brace do
    let attributes ← innerAttributes g
    g.statements
    return attributes

end Grammar
end Source
end FixtureFactory
