import FixtureFactory.Source.Grammar.Types

/-!
# Patterns

A range may leave out either end, but dots that include the last one need it.  Two dots on their
own stand for the rest of a list.  Of what a pattern was only its being such a range is kept,
because a list in square brackets does not take one.
-/

namespace FixtureFactory
namespace Source
namespace Grammar

open Lookahead (operatorOnly oneOf oneOfOperators)

/-- Where alternatives of a pattern are separated. -/
def barAhead : Lookahead :=
  .and (.operator "|") (.and (.not (.operator "||")) (.not (.operator "|=")))

/-- A pattern with alternatives, and with a bar before the first if there is one. -/
def alternatives (g : Grammar) : Reader Pattern := do
  let barred ← Reader.operator? "|"
  let first ← g.pattern
  let more ← Reader.manyUntil (.not barAhead) do
    Reader.operator "|"
    g.pattern
  return if barred || !more.isEmpty then .other else first

/-- The block of a constant. -/
def constantBlock (g : Grammar) : Reader Unit := do
  Reader.word "const"
  Reader.group .brace do
    let _ ← innerAttributes g
    g.statements

/-- The dots of a range; whether they include the end. -/
def rangeDots (allowThree : Bool) : Reader Bool := do
  if ← Reader.operator? "..=" then return true
  else if ← Reader.ahead (.operator "...") then
    if allowThree then
      Reader.operator "..."
      return true
    else Reader.fail
  else
    Reader.operator ".."
    return false

/-- The end of a range in a pattern, if there is one. -/
def patternEnd (g : Grammar) : Reader Bool := do
  let ahead := Reader.ahead
  if ← ahead (.or .atEnd (.or (oneOfOperators ["|", "=", ",", ";"])
      (.or (operatorOnly ":" "::") (.word "if")))) then return false
  else if ← ahead .literal then
    let _ ← Reader.literal
    return true
  else if ← ahead typePathStart then
    let _ ← qualifiedPath g true
    return true
  else
    constantBlock g
    return true

/-- What follows the start of a range. -/
def rangeAfterStart (g : Grammar) : Reader Pattern := do
  let dots ← Reader.here
  let closed ← rangeDots true
  if ← patternEnd g then return .other
  else if closed then Reader.fail
  else return .openRange dots

/-- A range that has no start. -/
def rangeWithoutStart (g : Grammar) : Reader Pattern := do
  let dots ← Reader.here
  let closed ← rangeDots false
  if ← patternEnd g then return .openRange dots
  else if closed then Reader.fail
  else return .remainder

/-- The name or number of a field, and whether it is a name. -/
def member : Reader Bool := do
  if ← Reader.ahead .name then
    let _ ← Reader.name
    return true
  else if ← Reader.ahead (.literalOf .integer) then
    let start ← Reader.here
    let text ← Reader.literal
    if text.toList.all (fun c => c.isDigit || c == '_') then return false
    else Reader.failAt start
  else Reader.fail

/-- A field in a pattern. -/
def fieldPattern (g : Grammar) : Reader Unit := do
  let boxed ← Reader.word? "box"
  let byReference ← Reader.word? "ref"
  let mutably ← Reader.word? "mut"
  let short := boxed || byReference || mutably
  let named ←
    if short then do
      let _ ← Reader.name
      pure true
    else member
  if !named || (!short && (← Reader.ahead (.operator ":"))) then
    Reader.operator ":"
    let _ ← alternatives g

/-- The fields of a record in a pattern. -/
def fieldPatterns (g : Grammar) : Reader Unit :=
  Reader.repeating () fun _ => do
    if ← Reader.done then return .inr ()
    else
      let _ ← outerAttributes g
      if ← Reader.operator? ".." then return .inr ()
      else
        fieldPattern g
        if ← Reader.done then return .inr ()
        else
          Reader.operator ","
          return .inl ()

/-- A pattern that starts with a path. -/
def pathPattern (g : Grammar) : Reader Pattern := do
  let p ← qualifiedPath g true
  let ahead := Reader.ahead
  if !p.qualified && p.plain && (← ahead (operatorOnly "!" "!=")) then
    Reader.operator "!"
    let _ ← Reader.anyGroup
    return .other
  else if ← ahead (.group .brace) then
    Reader.group .brace (fieldPatterns g)
    return .other
  else if ← ahead (.group .parenthesis) then
    let _ ← Reader.group .parenthesis (Reader.listed (alternatives g))
    return .other
  else if ← ahead (.operator "..") then rangeAfterStart g
  else return .other

/-- A pattern that binds a name. -/
def namePattern (g : Grammar) : Reader Unit := do
  let _ ← Reader.word? "ref"
  let _ ← Reader.word? "mut"
  if !(← Reader.word? "self") then do let _ ← Reader.name
  if ← Reader.operator? "@" then do let _ ← g.pattern

/-- A list of patterns in square brackets.  An open range would be ambiguous there. -/
def slicePattern (g : Grammar) : Reader Unit := do
  let _ ← Reader.group .bracket
    (Reader.listed do
      match ← alternatives g with
      | .openRange dots => Reader.failAt dots
      | _ => return ())

/-- A pattern that starts with a literal or a constant. -/
def literalPattern (g : Grammar) : Reader Pattern := do
  if ← patternEnd g then
    if ← Reader.ahead (.operator "..") then rangeAfterStart g else return .other
  else Reader.fail

/-- Whether a name is followed by what makes it the start of a path, a call or a range. -/
def pathPatternAhead : Lookahead :=
  .or (.and .name (.next (.or (oneOfOperators ["::", "!", ".."])
      (.or (.group .brace) (.group .parenthesis)))))
    (.or (.and (.word "self") (.next (.operator "::")))
      (.or (oneOfOperators ["::", "<"]) (oneOf ["Self", "super", "crate"])))

/-- A pattern without alternatives. -/
def anyPattern (g : Grammar) : Reader Pattern := do
  let ahead := Reader.ahead
  if ← ahead pathPatternAhead then pathPattern g
  else if ← Reader.word? "_" then return .other
  else if ← Reader.word? "box" then
    let _ ← g.pattern
    return .other
  else if ← ahead (.or (.operator "-") (.or .literal (.word "const"))) then literalPattern g
  else if ← ahead (.or (oneOf ["ref", "mut", "self"]) .name) then
    namePattern g
    return .other
  else if ← Reader.operator? "&" then
    let _ ← Reader.word? "mut"
    let _ ← g.pattern
    return .other
  else if ← ahead (.group .parenthesis) then
    let _ ← Reader.group .parenthesis (Reader.listed (alternatives g))
    return .other
  else if ← ahead (.group .bracket) then
    slicePattern g
    return .other
  else if ← ahead (operatorOnly ".." "...") then rangeWithoutStart g
  else Reader.fail

end Grammar
end Source
end FixtureFactory
