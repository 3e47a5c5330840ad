import FixtureFactory.Source.Grammar

/-!
# Attributes and visibility

What may stand before an item.  An attribute is a path followed by nothing, by a group of any
trees, or by a value.
-/

namespace FixtureFactory
namespace Source
namespace Grammar

open Lookahead (operatorOnly oneOf)

/-- A path of plain names. -/
def plainPath : Reader (List String) := do
  let _ ← Reader.operator? "::"
  Reader.repeating [] fun segments => do
    if !(← Reader.ahead (.or .name (oneOf ["super", "self", "Self", "crate"]))) then Reader.fail
    else do
      let segments := (← Reader.anyWord) :: segments
      if ← Reader.operator? "::" then return .inl segments
      else return .inr segments.reverse

/-- The value of an attribute: a literal that is all of it, or an expression. -/
def attributeValue (g : Grammar) : Reader Unit := do
  Reader.operator "="
  let alone ← Reader.attempt do
    let _ ← Reader.literal
    if !(← Reader.done) then Reader.fail
  match alone with
  | some _ => return ()
  | .none =>
      if ← Reader.ahead (.and (.operator "#") (.next (.group .bracket))) then Reader.fail
      else do let _ ← g.expression true

/-- What an attribute holds between its brackets. -/
def attributeBody (g : Grammar) : Reader Attribute := do
  let path ← if ← Reader.word? "unsafe" then pure ["unsafe"] else plainPath
  if ← Reader.ahead .anyGroup then do let _ ← Reader.anyGroup
  else if ← Reader.ahead (.operator "=") then attributeValue g
  return ⟨path⟩

/-- The attributes of what follows. -/
def outerAttributes (g : Grammar) : Reader (List Attribute) :=
  Reader.manyUntil (.not (.operator "#")) do
    Reader.operator "#"
    Reader.group .bracket (attributeBody g)

/-- The attributes of what surrounds. -/
def innerAttributes (g : Grammar) : Reader (List Attribute) :=
  Reader.manyUntil (.not (.and (.operator "#") (.next (.operator "!")))) do
    Reader.operator "#"
    Reader.operator "!"
    Reader.group .bracket (attributeBody g)

/-- The restriction of a visibility, which is only one if nothing else stands in its group. -/
def restriction : Reader Unit :=
  Reader.group .parenthesis do
    if ← Reader.ahead (oneOf ["crate", "self", "super"]) then do
      let _ ← Reader.anyWord
      if !(← Reader.done) then Reader.fail
    else do
      Reader.word "in"
      let _ ← plainPath

/-- Whether a restriction comes next that must be read as one. -/
def restrictionByPath : Lookahead
  | .group _ .parenthesis _ trees :: _ => Lookahead.word "in" trees
  | _ => false

/-- A visibility; whether one is written. -/
def visibility : Reader Bool := do
  if !(← Reader.word? "pub") then return false
  else do
    if ← Reader.ahead restrictionByPath then restriction
    else do let _ ← Reader.attempt restriction
    return true

end Grammar
end Source
end FixtureFactory
